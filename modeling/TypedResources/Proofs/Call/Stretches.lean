import TypedResources.Call.Shape
import TypedResources.Proofs.Pattern.Reads
import TypedResources.Proofs.Text.Depth

-- What the patterns for the stretches of a call read. Arguments are shallow texts that do not begin
-- with a blank; one argument has no comma outside parentheses (`only_argument`), two have one
-- (`of_reads_two`), and of any number of arguments nothing else is asked (`reads_arguments_iff`). A
-- reference keeps its package and its field (`reads_resource_iff`).

namespace TypedResources.Call

open Text (Balanced Shallow isBlank isWord outer)
open TypedResources.Pattern (Reads Repeats reads_all_cons reads_all_nil reads_blanks_iff reads_char_iff
  reads_many_one_iff reads_seq_iff reads_word_iff reads_wordChars_iff)

variable {u v w s t : List Char} {kept : List (Slot × List Char)} {a b : Pattern.P} {ps : List Pattern.P}
  {T : List Char → Prop} {p : Char → Bool} {c : Char} {shape : Shape}

-- Every text of a pattern has a property, and nothing of it is kept.
def Only (T : List Char → Prop) (a : Pattern.P) : Prop :=
  ∀ w kept, a.Reads w kept → T w ∧ kept = []

theorem Only.alt (ha : Only T a) (hb : Only T b) : Only T (.alt a b) := by
  rintro w kept (h | h)
  case inl => exact ha w kept h
  case inr => exact hb w kept h

-- A property that texts have together if they have it one by one.
structure Additive (T : List Char → Prop) : Prop where
  nil    : T []
  append : ∀ {u v}, T u → T v → T (u ++ v)

namespace Additive

variable (hT : Additive T)

include hT

theorem seq (ha : Only T a) (hb : Only T b) : Only T (.seq a b) := by
  rintro _ _ ⟨u, v, ku, kv, hu, hv, rfl, rfl⟩
  obtain ⟨htu, rfl⟩ := ha _ _ hu
  obtain ⟨htv, rfl⟩ := hb _ _ hv
  exact ⟨hT.append htu htv, rfl⟩

theorem many (ha : Only T a) : Only T (.many a) := by
  intro w kept h
  induction h with
  | nil           => exact ⟨hT.nil, rfl⟩
  | cons hu _ ih =>
    obtain ⟨htu, rfl⟩ := ha _ _ hu
    obtain ⟨htv, rfl⟩ := ih
    exact ⟨hT.append htu htv, rfl⟩

theorem all (h : ∀ a ∈ ps, Only T a) : Only T (TypedResources.Pattern.all ps) := by
  induction ps
  case nil          => rintro _ _ ⟨rfl, rfl⟩; exact ⟨hT.nil, rfl⟩
  case cons a ps ih =>
    have ⟨ha, hps⟩ := List.forall_mem_cons.mp h
    exact hT.seq ha (ih hps)

end Additive

-- A shallow text in which all that stands outside parentheses is of a class.
structure Level (p : Char → Bool) (w : List Char) : Prop where
  shallow : Text.Shallow w
  outer   : ∀ c ∈ Text.outer 0 w, p c

theorem additive_level : Additive (Level p) where
  nil            := ⟨.nil, nofun⟩
  append hu hv := ⟨hu.shallow.append hv.shallow, by
    rw [Text.outer_append hu.shallow.balanced]
    exact List.forall_mem_append.mpr ⟨hu.outer, hv.outer⟩⟩

theorem Level.of_not_isParen (h : ∀ c ∈ w, Text.isParen c = false ∧ p c) : Level p w where
  shallow := .of_not_isParen fun c hc => (h c hc).left
  outer   := by
    rw [Text.outer_of_not_isParen fun c hc => (h c hc).left]
    exact fun c hc => (h c hc).right

theorem level_parenthesized (h : ∀ c ∈ w, Text.isParen c = false) : Level p ('(' :: w ++ [')']) where
  shallow := .parenthesized h
  outer   := by rw [Text.outer_parenthesized h]; exact nofun

-- A class without parentheses.
def Plain (p : Char → Bool) : Prop :=
  ∀ c, p c → Text.isParen c = false

theorem plain_noneOf {s : String} (ho : '(' ∈ s.toList) (hc : ')' ∈ s.toList) : Plain fun c => !s.toList.contains c := by
  intro c h
  have hn : c ∉ s.toList := by simpa using h
  simp [Text.isParen, ne_of_mem_of_not_mem ho hn |>.symm, ne_of_mem_of_not_mem hc hn |>.symm]

theorem only_one {q : Char → Bool} (hq : ∀ c, q c → Text.isParen c = false ∧ p c) : Only (Level p) (.one q) := by
  rintro _ _ ⟨⟨c, hc, rfl⟩, rfl⟩
  exact ⟨.of_not_isParen (List.forall_mem_singleton.mpr (hq c hc)), rfl⟩

theorem reads_parenthesized_iff : Pattern.parenthesized.Reads w kept ↔
    (∃ u, w = '(' :: u ++ [')'] ∧ ∀ c ∈ u, Text.isParen c = false) ∧ kept = [] := by
  simp only [Pattern.parenthesized, Pattern.noneOf, reads_all_cons, reads_all_nil, reads_char_iff, reads_many_one_iff]
  constructor
  case mp =>
    rintro ⟨_, _, _, _, ⟨rfl, rfl⟩,
      ⟨u, _, _, _, ⟨hu, rfl⟩, ⟨_, _, _, _, ⟨rfl, rfl⟩, ⟨rfl, rfl⟩, rfl, rfl⟩, rfl, rfl⟩, rfl, rfl⟩
    exact ⟨⟨u, rfl, fun c hc => plain_noneOf (s := "()") (by decide) (by decide) c (hu c hc)⟩, rfl⟩
  case mpr =>
    rintro ⟨⟨u, rfl, hu⟩, rfl⟩
    have hu : ∀ c ∈ u, !"()".toList.contains c := fun c hc => by simpa [Text.isParen] using hu c hc
    exact ⟨_, _, [], [], ⟨rfl, rfl⟩, ⟨u, [')'], [], [], ⟨hu, rfl⟩, ⟨_, _, [], [], ⟨rfl, rfl⟩, ⟨rfl, rfl⟩, rfl, rfl⟩, rfl, rfl⟩,
      rfl, rfl⟩

theorem only_parenthesized : Only (Level p) Pattern.parenthesized := by
  intro w kept h
  obtain ⟨⟨u, rfl, hu⟩, rfl⟩ := reads_parenthesized_iff.mp h
  exact ⟨level_parenthesized hu, rfl⟩

-- Characters of a class, and groups in parentheses between them.
theorem reads_level_iff (hp : Plain p) :
    (TypedResources.Pattern.all [.many (.one p), .many (.seq Pattern.parenthesized (.many (.one p)))]).Reads w kept ↔
      Level p w ∧ kept = [] := by
  constructor
  case mp =>
    have hone : Only (Level p) (.many (.one p)) := additive_level.many (only_one fun c hc => ⟨hp c hc, hc⟩)
    have hgroups := additive_level.many (additive_level.seq only_parenthesized hone)
    exact additive_level.all (by simpa using ⟨hone, hgroups⟩) w kept
  case mpr =>
    rintro ⟨⟨hs, ho⟩, rfl⟩
    suffices h : ∃ u v, w = u ++ v ∧ (∀ c ∈ u, p c) ∧
        TypedResources.Pattern.Repeats (Reads (.seq Pattern.parenthesized (.many (.one p)))) v [] by
      obtain ⟨u, v, rfl, hu, hv⟩ := h
      exact ⟨u, v, [], [], reads_many_one_iff.mpr ⟨hu, rfl⟩, ⟨v, [], [], [], hv, ⟨rfl, rfl⟩, by simp, rfl⟩, rfl, rfl⟩
    induction hs using Text.Shallow.induction with
    | nil => exact ⟨[], [], rfl, nofun, .nil⟩
    | plain c w hc _ ih =>
      have hplain : ∀ d ∈ [c], Text.isParen d = false := List.forall_mem_singleton.mpr hc
      rw [← List.singleton_append, Text.outer_append (Text.openAfter_of_not_isParen hplain),
        Text.outer_of_not_isParen hplain] at ho
      have ⟨hpc, ho⟩ := List.forall_mem_cons.mp ho
      obtain ⟨u, v, rfl, hu, hv⟩ := ih ho
      exact ⟨c :: u, v, rfl, List.forall_mem_cons.mpr ⟨hpc, hu⟩, hv⟩
    | group g w hg _ ih =>
      rw [Text.outer_append (Text.Shallow.parenthesized hg).balanced, Text.outer_parenthesized hg] at ho
      obtain ⟨u, v, rfl, hu, hv⟩ := ih ho
      have hgroup : Reads (.seq Pattern.parenthesized (.many (.one p))) ('(' :: g ++ [')'] ++ u) [] :=
        ⟨_, u, [], [], reads_parenthesized_iff.mpr ⟨⟨g, rfl, hg⟩, rfl⟩, reads_many_one_iff.mpr ⟨hu, rfl⟩, rfl, rfl⟩
      exact ⟨[], ('(' :: g ++ [')'] ++ u) ++ v, by simp, nofun, .cons hgroup hv⟩

-- A pattern of texts that do not begin with a blank.
def Begins (a : Pattern.P) : Prop :=
  ∀ w kept, a.Reads w kept → ∃ c t, w = c :: t ∧ Text.isBlank c = false

namespace Begins

theorem seq (ha : Begins a) : Begins (.seq a b) := by
  rintro _ _ ⟨u, v, ku, kv, hu, -, rfl, -⟩
  obtain ⟨c, t, rfl, hc⟩ := ha _ _ hu
  exact ⟨c, t ++ v, rfl, hc⟩

theorem alt (ha : Begins a) (hb : Begins b) : Begins (.alt a b) := by
  rintro w kept (h | h)
  case inl => exact ha w kept h
  case inr => exact hb w kept h

theorem noneOfOrBlank {s : String} : Begins (Pattern.noneOfOrBlank s) := by
  rintro _ _ ⟨⟨c, hc, rfl⟩, -⟩
  exact ⟨c, [], rfl, by simpa using (Bool.and_eq_true_iff.mp hc).2⟩

theorem parenthesized : Begins Pattern.parenthesized := by
  refine seq fun w kept h => ?_
  obtain ⟨rfl, -⟩ := TypedResources.Pattern.reads_char_iff.mp h
  exact ⟨'(', [], rfl, by decide⟩

end Begins

theorem begins_argument : Begins Pattern.argument :=
  .alt (.seq .noneOfOrBlank) (.seq .parenthesized)

theorem begins_arguments : Begins Pattern.arguments :=
  .alt (.seq .noneOfOrBlank) (.seq .parenthesized)

-- One argument has no comma outside parentheses.
theorem only_argument : Only (Level (· ≠ ',')) Pattern.argument := by
  have hp : Plain fun c => !"(),".toList.contains c := plain_noneOf (by decide) (by decide)
  have hone {q : Char → Bool} (hq : ∀ c, q c → !"(),".toList.contains c) : Only (Level (· ≠ ',')) (.one q) :=
    only_one fun c hc => ⟨hp c (hq c hc), by have := hq c hc; simp at this; simpa using this.2.2⟩
  have hmany := additive_level.many (hone fun _ => id)
  have hgroup := additive_level.seq only_parenthesized hmany
  refine .alt (additive_level.all ?_) hgroup
  simp only [List.forall_mem_cons]
  exact ⟨hone fun c hc => (Bool.and_eq_true_iff.mp hc).1, hmany, additive_level.many hgroup, nofun⟩

theorem only_arguments : Only (Level fun _ => true) Pattern.arguments := by
  have hp : Plain fun c => !"()".toList.contains c := plain_noneOf (by decide) (by decide)
  have hone {q : Char → Bool} (hq : ∀ c, q c → !"()".toList.contains c) : Only (Level fun _ => true) (.one q) :=
    only_one fun c hc => ⟨hp c (hq c hc), rfl⟩
  have hmany := additive_level.many (hone fun _ => id)
  have hgroups := additive_level.many (additive_level.seq only_parenthesized hmany)
  refine .alt (additive_level.all ?_) (additive_level.all ?_) <;> simp only [List.forall_mem_cons]
  · exact ⟨hone fun c hc => (Bool.and_eq_true_iff.mp hc).1, hmany, hgroups, nofun⟩
  · exact ⟨only_parenthesized, hmany, hgroups, nofun⟩

-- Any number of arguments is a shallow text that begins with a character other than a blank.
theorem reads_arguments_iff : Pattern.arguments.Reads w kept ↔
    (Text.Shallow w ∧ ∃ c t, w = c :: t ∧ Text.isBlank c = false) ∧ kept = [] := by
  constructor
  case mp =>
    intro h
    have ⟨hl, hk⟩ := only_arguments w kept h
    exact ⟨⟨hl.shallow, begins_arguments w kept h⟩, hk⟩
  case mpr =>
    rintro ⟨⟨hs, c, w, rfl, hc⟩, rfl⟩
    have hnone {c : Char} (h : Text.isParen c = false) : !"()".toList.contains c := by simpa [Text.isParen] using h
    have hplain := plain_noneOf (s := "()") (by decide) (by decide)
    have hlevel {w : List Char} (h : Text.Shallow w) := (reads_level_iff hplain).mpr
      ⟨⟨h, fun c hc => hnone (Text.not_isParen_of_mem_outer (s := w) hc)⟩, rfl⟩
    by_cases hopen : c = '('
    case pos =>
      subst hopen
      obtain ⟨u, t, rfl, hu, ht⟩ := hs.exists_close
      exact .inr ⟨'(' :: u ++ [')'], t, [], [], reads_parenthesized_iff.mpr ⟨⟨u, rfl, hu⟩, rfl⟩, hlevel ht, by simp, rfl⟩
    case neg =>
      have hclose : c ≠ ')' := fun h => Text.Shallow.not_close (h ▸ hs)
      have hp : Text.isParen c = false := by simp [Text.isParen, hopen, hclose]
      have hw : Text.Shallow w := .of_append (s := [c]) (List.forall_mem_singleton.mpr hp) hs
      exact .inl ⟨[c], w, [], [], ⟨⟨c, Bool.and_eq_true_iff.mpr ⟨hnone hp, by rw [hc]; rfl⟩, rfl⟩, rfl⟩, hlevel hw, rfl, rfl⟩

def Blanks (w : List Char) : Prop :=
  ∀ c ∈ w, isBlank c

instance (w : List Char) : Decidable (Blanks w) :=
  decidable_of_iff (w.all isBlank) List.all_eq_true

-- How many commas stand outside parentheses.
def commas (w : List Char) : Nat :=
  (outer 0 w).count ','

theorem Blanks.shallow (h : Blanks w) : Shallow w :=
  .of_not_isParen fun c hc => Text.not_isParen_of_isBlank (h c hc)

theorem commas_append (h : Balanced u) : commas (u ++ v) = commas u + commas v := by
  rw [commas, Text.outer_append h, List.count_append]
  rfl

theorem Blanks.commas (h : Blanks w) : commas w = 0 := by
  rw [Call.commas, Text.outer_of_not_isParen fun c hc => Text.not_isParen_of_isBlank (h c hc)]
  exact List.count_eq_zero.mpr fun hc => absurd (h _ hc) (by decide)

theorem shallow_comma : Shallow [','] := by
  decide

theorem commas_of_level (h : Level (· ≠ ',') w) : commas w = 0 :=
  List.count_eq_zero.mpr fun hc => by simpa using h.outer ',' hc

theorem reads_comma_iff : Pattern.comma.Reads w kept ↔ (∃ u v, w = u ++ ',' :: v ∧ Blanks u ∧ Blanks v) ∧ kept = [] := by
  simp only [Pattern.comma, reads_all_cons, reads_all_nil, reads_blanks_iff, reads_char_iff]
  constructor
  case mp =>
    rintro ⟨u, _, _, _, ⟨hu, rfl⟩,
      ⟨_, _, _, _, ⟨rfl, rfl⟩, ⟨v, _, _, _, ⟨hv, rfl⟩, ⟨rfl, rfl⟩, rfl, rfl⟩, rfl, rfl⟩, rfl, rfl⟩
    exact ⟨⟨u, v, by simp, hu, hv⟩, rfl⟩
  case mpr =>
    rintro ⟨⟨u, v, rfl, hu, hv⟩, rfl⟩
    exact ⟨u, ',' :: v, [], [], ⟨hu, rfl⟩, ⟨[','], v, [], [], ⟨rfl, rfl⟩, ⟨v, [], [], [], ⟨hv, rfl⟩, ⟨rfl, rfl⟩, by simp, rfl⟩,
      rfl, rfl⟩, rfl, rfl⟩

-- Two arguments have one comma between them.
theorem of_reads_two
    (h : (TypedResources.Pattern.all [Pattern.argument, Pattern.comma, Pattern.argument]).Reads w kept) :
    Shallow w ∧ (∃ c t, w = c :: t ∧ isBlank c = false) ∧ commas w = 1 ∧ kept = [] := by
  have hfirst := Begins.seq begins_argument w kept h
  obtain ⟨a, _, _, _, ha, ⟨g, _, _, _, hg, ⟨b, _, _, _, hb, ⟨rfl, rfl⟩, rfl, rfl⟩, rfl, rfl⟩, rfl, rfl⟩ := h
  obtain ⟨hla, rfl⟩ := only_argument _ _ ha
  obtain ⟨⟨u, v, rfl, hu, hv⟩, rfl⟩ := reads_comma_iff.mp hg
  obtain ⟨hlb, rfl⟩ := only_argument _ _ hb
  have hgap : Shallow (u ++ ',' :: v) := hu.shallow.append (shallow_comma.append hv.shallow)
  refine ⟨hla.shallow.append (hgap.append (by simpa using hlb.shallow)), hfirst, ?_, rfl⟩
  calc commas (a ++ ((u ++ ',' :: v) ++ (b ++ [])))
    _ = commas a + (commas u + (commas [','] + commas v) + commas (b ++ [])) := by
      rw [commas_append hla.shallow.balanced, commas_append hgap.balanced, commas_append hu.shallow.balanced,
        ← List.singleton_append, commas_append shallow_comma.balanced]
    _ = 1 := by
      rw [List.append_nil, commas_of_level hla, hu.commas, hv.commas, commas_of_level hlb]
      rfl

-- There is one place at which the first comma outside parentheses stands.
theorem eq_of_comma (hu : Level (· ≠ ',') u) (hv : Level (· ≠ ',') v) (h : u ++ ',' :: s = v ++ ',' :: t) :
    u = v ∧ s = t := by
  have hnot {w s : List Char} (hw : Level (· ≠ ',') w) (h : Level (· ≠ ',') (w ++ ',' :: s)) : False := by
    have ho := h.outer
    rw [Text.outer_append hw.shallow.balanced] at ho
    simpa using ho ',' (List.mem_append_right _ List.mem_cons_self)
  rcases List.append_eq_append_iff.mp h with ⟨_ | ⟨c, y⟩, rfl, hs⟩ | ⟨_ | ⟨c, y⟩, rfl, hs⟩
  case inl.nil  => exact ⟨(List.append_nil u).symm, (List.cons.inj hs).right⟩
  case inr.nil  => exact ⟨List.append_nil v, (List.cons.inj hs).right.symm⟩
  case inl.cons => cases hs; exact (hnot hu hv).elim
  case inr.cons => cases hs; exact (hnot hv hu).elim

theorem Blanks.level (h : Blanks w) : Level (· ≠ ',') w := by
  refine .of_not_isParen fun c hc => ⟨Text.not_isParen_of_isBlank (h c hc), ?_⟩
  have hne : c ≠ ',' := fun he => absurd (h c hc) (by rw [he]; decide)
  simpa using hne

-- A text that begins with a group in parentheses has no other one.
def LoneGroup (w : List Char) : Prop :=
  w.head? = some '(' → w.count '(' = 1

instance (w : List Char) : Decidable (LoneGroup w) :=
  inferInstanceAs (Decidable (_ → _))

theorem isParen_eq_false_iff : Text.isParen c = false ↔ c ≠ '(' ∧ c ≠ ')' := by
  simp [Text.isParen]

-- Without a group there are no parentheses.
theorem not_isParen_of_count (h : Shallow w) (hw : w.count '(' = 0) : ∀ c ∈ w, Text.isParen c = false := by
  induction h using Shallow.induction with
  | nil             => exact nofun
  | plain c w hc _ ih =>
    rw [List.count_cons, Nat.add_eq_zero_iff] at hw
    exact List.forall_mem_cons.mpr ⟨hc, ih hw.left⟩
  | group g w _ _ _ => simp at hw

theorem level_noneOf_iff : Level (fun c => !"(),".toList.contains c) w ↔ Level (· ≠ ',') w := by
  constructor
  case mp  => exact fun h => ⟨h.shallow, fun c hc => by have := h.outer c hc; simp at this; simpa using this.2.2⟩
  case mpr =>
    refine fun h => ⟨h.shallow, fun c hc => ?_⟩
    have ⟨ho, hp⟩ := isParen_eq_false_iff.mp (Text.not_isParen_of_mem_outer hc)
    have hcomma : c ≠ ',' := by simpa using h.outer c hc
    simp [ho, hp, hcomma]

-- What stands behind a lone group has no parentheses and no comma.
theorem noneOf_of_loneGroup (hl : Level (· ≠ ',') ('(' :: u ++ ')' :: v)) (hu : ∀ c ∈ u, Text.isParen c = false)
    (hv : Shallow v) (hg : LoneGroup ('(' :: u ++ ')' :: v)) : ∀ c ∈ v, !"(),".toList.contains c := by
  have hcount : v.count '(' = 0 := by
    have := hg rfl
    simp only [List.cons_append, List.count_cons_self, List.count_append, List.count_cons_of_ne (show ')' ≠ '(' by decide)]
      at this
    omega
  have hp := not_isParen_of_count hv hcount
  have hcomma := hl.outer
  rw [← List.singleton_append (x := ')'), ← List.append_assoc, Text.outer_append (Balanced.parenthesized (.of_not_isParen hu)),
    Text.outer_parenthesized hu, Text.outer_of_not_isParen hp] at hcomma
  intro c hc
  have ⟨ho, hclose⟩ := isParen_eq_false_iff.mp (hp c hc)
  have : c ≠ ',' := by simpa using hcomma c hc
  simp [ho, hclose, this]

theorem reads_argument_iff : Pattern.argument.Reads w kept ↔
    (Level (· ≠ ',') w ∧ (∃ c t, w = c :: t ∧ isBlank c = false) ∧ LoneGroup w) ∧ kept = [] := by
  have hplain : Plain fun c => !"(),".toList.contains c := plain_noneOf (by decide) (by decide)
  constructor
  case mp =>
    intro h
    have ⟨hl, hk⟩ := only_argument w kept h
    refine ⟨⟨hl, begins_argument w kept h, ?_⟩, hk⟩
    rcases h with ⟨_, _, _, _, ⟨⟨c, hc, rfl⟩, -⟩, -, rfl, -⟩ | ⟨_, v, _, _, hgroup, hv, rfl, -⟩
    case inl =>
      intro ho
      cases ho
      cases hc
    case inr =>
      obtain ⟨⟨u, rfl, hu⟩, -⟩ := reads_parenthesized_iff.mp hgroup
      have hno {s : List Char} (hs : ∀ c ∈ s, Text.isParen c = false) : s.count '(' = 0 :=
        List.count_eq_zero.mpr fun h => absurd (hs _ h) (by decide)
      have hv := hno fun c hc => hplain c ((reads_many_one_iff.mp hv).1 c hc)
      intro _
      simp [hno hu, hv]
  case mpr =>
    rintro ⟨⟨hl, ⟨c, w, rfl, hc⟩, hg⟩, rfl⟩
    by_cases hopen : c = '('
    case pos =>
      subst hopen
      obtain ⟨u, v, rfl, hu, hv⟩ := hl.shallow.exists_close
      exact .inr ⟨'(' :: u ++ [')'], v, [], [], reads_parenthesized_iff.mpr ⟨⟨u, rfl, hu⟩, rfl⟩,
        reads_many_one_iff.mpr ⟨noneOf_of_loneGroup hl hu hv hg, rfl⟩, by simp, rfl⟩
    case neg =>
      have hclose : c ≠ ')' := fun h => Shallow.not_close (h ▸ hl.shallow)
      have hp : Text.isParen c = false := isParen_eq_false_iff.mpr ⟨hopen, hclose⟩
      have hplainc : ∀ d ∈ [c], Text.isParen d = false := List.forall_mem_singleton.mpr hp
      have hout := hl.outer
      rw [← List.singleton_append, Text.outer_append (Text.openAfter_of_not_isParen hplainc),
        Text.outer_of_not_isParen hplainc, List.singleton_append, List.forall_mem_cons] at hout
      have hcomma : c ≠ ',' := by simpa using hout.1
      have hw : Level (· ≠ ',') w := ⟨.of_append (s := [c]) hplainc hl.shallow, hout.2⟩
      have hfirst : (!"(),".toList.contains c && !isBlank c) = true := by simp [hopen, hclose, hcomma, hc]
      exact .inl ⟨[c], w, [], [], ⟨⟨c, hfirst, rfl⟩, rfl⟩, (reads_level_iff hplain).mpr ⟨level_noneOf_iff.mpr hw, rfl⟩,
        rfl, rfl⟩

-- Names with a dot behind each.
def Dotted (w : List Char) : Prop :=
  ∃ names : List (List Char), w = names.flatMap (· ++ ['.']) ∧ ∀ n ∈ names, n ≠ [] ∧ ∀ c ∈ n, isWord c

theorem reads_names_iff : Repeats (Reads (.seq .wordChars (.char '.') : Pattern.P)) w kept ↔ Dotted w ∧ kept = [] := by
  constructor
  case mp =>
    intro h
    induction h with
    | nil           => exact ⟨⟨[], rfl, nofun⟩, rfl⟩
    | cons hu _ ih =>
      obtain ⟨⟨names, rfl, hn⟩, rfl⟩ := ih
      obtain ⟨n, _, _, _, hw, hdot, rfl, rfl⟩ := hu
      obtain ⟨hwords, rfl⟩ := reads_wordChars_iff.mp hw
      obtain ⟨rfl, rfl⟩ := reads_char_iff.mp hdot
      exact ⟨⟨n :: names, rfl, List.forall_mem_cons.mpr ⟨hwords, hn⟩⟩, rfl⟩
  case mpr =>
    rintro ⟨⟨names, rfl, hn⟩, rfl⟩
    induction names
    case nil             => exact .nil
    case cons n names ih =>
      have ⟨hw, hn⟩ := List.forall_mem_cons.mp hn
      exact .cons ⟨n, ['.'], [], [], reads_wordChars_iff.mpr ⟨hw, rfl⟩, reads_char_iff.mpr ⟨rfl, rfl⟩, rfl, rfl⟩ (ih hn)

theorem reads_package_iff : (TypedResources.Pattern.opt
      (.keep .package (TypedResources.Pattern.many1 (.seq .wordChars (.char '.')))) : Pattern.P).Reads w kept ↔
    Dotted w ∧ kept = if w = [] then [] else [(.package, w)] := by
  constructor
  case mp =>
    rintro (⟨ku, ⟨u, v, ka, kb, hu, hv, rfl, rfl⟩, rfl⟩ | ⟨rfl, rfl⟩)
    case inr => exact ⟨⟨[], rfl, nofun⟩, rfl⟩
    case inl =>
      have hr : Repeats (Reads (.seq .wordChars (.char '.') : Pattern.P)) (u ++ v) (kb ++ ka) := .cons hu hv
      obtain ⟨hd, hk⟩ := reads_names_iff.mp hr
      have hne : u ++ v ≠ [] := by
        obtain ⟨_, _, _, _, -, hdot, rfl, -⟩ := hu
        obtain ⟨rfl, -⟩ := reads_char_iff.mp hdot
        simp
      rw [hk, if_neg hne]
      exact ⟨hd, rfl⟩
  case mpr =>
    rintro ⟨⟨names, rfl, hn⟩, rfl⟩
    cases names
    case nil             => exact .inr ⟨rfl, rfl⟩
    case cons n names =>
      have ⟨hw, hn⟩ := List.forall_mem_cons.mp hn
      have hone : Reads (.seq .wordChars (.char '.') : Pattern.P) (n ++ ['.']) [] :=
        ⟨n, ['.'], [], [], reads_wordChars_iff.mpr ⟨hw, rfl⟩, reads_char_iff.mpr ⟨rfl, rfl⟩, rfl, rfl⟩
      rw [if_neg (by simp)]
      exact .inl ⟨[], ⟨_, _, [], [], hone, reads_names_iff.mpr ⟨⟨names, rfl, hn⟩, rfl⟩, rfl, rfl⟩, rfl⟩

theorem reads_resource_iff {tag : String} : (Pattern.resource tag).Reads w kept ↔ ∃ package field,
    w = package ++ (reference tag (String.ofList field)).toList ∧ Dotted package ∧
      (field ≠ [] ∧ ∀ c ∈ field, isWord c) ∧
      kept = (.field, field) :: if package = [] then [] else [(.package, package)] := by
  rw [Pattern.resource, reads_all_cons]
  simp only [reads_package_iff, reads_all_cons, reads_all_nil, reads_word_iff]
  constructor
  case mp =>
    rintro ⟨package, _, _, _, ⟨hp, rfl⟩,
      ⟨_, _, _, _, ⟨rfl, rfl⟩, ⟨field, _, _, _, ⟨_, hf, rfl⟩, ⟨rfl, rfl⟩, rfl, rfl⟩, rfl, rfl⟩, rfl, rfl⟩
    obtain ⟨hw, rfl⟩ := reads_wordChars_iff.mp hf
    exact ⟨package, field, by simp [reference], hp, hw, rfl⟩
  case mpr =>
    rintro ⟨package, field, rfl, hp, hw, rfl⟩
    refine ⟨package, ("R." ++ tag ++ ".").toList ++ field, _, [(.field, field)], ⟨hp, rfl⟩,
      ⟨_, field, [], [(.field, field)], ⟨rfl, rfl⟩, ⟨field, [], _, [], ⟨[], reads_wordChars_iff.mpr ⟨hw, rfl⟩, rfl⟩, ⟨rfl, rfl⟩,
        by simp, rfl⟩, rfl, rfl⟩, by simp [reference], rfl⟩

theorem balanced_of_words {w : List Char} (h : ∀ c ∈ w, isWord c ∨ c = '.') : Balanced w := by
  refine .of_not_isParen fun c hc => ?_
  rcases h c hc with hw | rfl
  case inl => exact Text.not_isParen_of_isWord hw
  case inr => rfl

theorem level_of_words (h : ∀ c ∈ w, isWord c ∨ c = '.') : Level (· ≠ ',') w := by
  refine .of_not_isParen fun c hc => ?_
  rcases h c hc with hw | rfl
  case inr => decide
  case inl =>
    have hne : c ≠ ',' := fun he => absurd hw (by rw [he]; decide)
    exact ⟨Text.not_isParen_of_isWord hw, by simpa using hne⟩

theorem Dotted.words (h : Dotted w) : ∀ c ∈ w, isWord c ∨ c = '.' := by
  obtain ⟨names, rfl, hn⟩ := h
  intro c hc
  obtain ⟨n, hm, hc⟩ := List.mem_flatMap.mp hc
  rcases List.mem_append.mp hc with hc | hc
  case inl => exact .inl ((hn n hm).2 c hc)
  case inr => exact .inr (List.mem_singleton.mp hc)

theorem Dotted.balanced (h : Dotted w) : Balanced w :=
  balanced_of_words h.words

theorem words_reference {field : List Char} (hs : shape ∈ shapes) (hf : ∀ c ∈ field, isWord c) :
    ∀ c ∈ (reference shape.tag (String.ofList field)).toList, isWord c ∨ c = '.' := by
  have ht : ∀ shape ∈ shapes, ("R." ++ shape.tag ++ ".").toList.all fun c => isWord c || c = '.' := by decide
  rw [reference, String.toList_append, String.toList_ofList]
  refine List.forall_mem_append.mpr ⟨fun c hc => ?_, fun c hc => .inl (hf c hc)⟩
  simpa using List.all_eq_true.mp (ht shape hs) c hc

theorem balanced_reference {field : List Char} (hs : shape ∈ shapes) (hf : ∀ c ∈ field, isWord c) :
    Balanced (reference shape.tag (String.ofList field)).toList :=
  balanced_of_words (words_reference hs hf)

-- A stretch of word characters and dots that begins with a name.
structure Run (w : List Char) : Prop where
  head  : ∃ c t, w = c :: t ∧ isWord c
  chars : ∀ c ∈ w, isWord c ∨ c = '.'

namespace Run

variable (h : Run w)

include h

theorem notMem (hc : isWord c = false) (hd : c ≠ '.') : c ∉ w := by
  intro hm
  rcases h.chars c hm with hw | rfl
  case inl => exact absurd hw (by simp [hc])
  case inr => exact hd rfl

theorem not_isParen : ∀ c ∈ w, Text.isParen c = false := by
  intro c hc
  rcases h.chars c hc with hw | rfl
  case inl => exact Text.not_isParen_of_isWord hw
  case inr => rfl

theorem exists_not_isBlank : ∃ c t, w = c :: t ∧ isBlank c = false := by
  obtain ⟨c, t, rfl, hc⟩ := h.head
  exact ⟨c, t, rfl, Text.not_isBlank_of_isWord hc⟩

end Run

theorem Dotted.exists_head (h : Dotted w) (hne : w ≠ []) : ∃ c t, w = c :: t ∧ isWord c := by
  obtain ⟨_ | ⟨n, names⟩, rfl, hn⟩ := h
  case nil  => exact absurd rfl hne
  case cons =>
    obtain ⟨⟨hne, hw⟩, -⟩ := List.forall_mem_cons.mp hn
    obtain ⟨c, t, rfl⟩ := List.exists_cons_of_ne_nil hne
    exact ⟨c, _, rfl, hw c List.mem_cons_self⟩

theorem run_reference {field : List Char} (hs : shape ∈ shapes) (hw : Dotted w) (hf : ∀ c ∈ field, isWord c) :
    Run (w ++ (reference shape.tag (String.ofList field)).toList) where
  chars := List.forall_mem_append.mpr ⟨hw.words, words_reference hs hf⟩
  head  := by
    by_cases hne : w = []
    case pos => exact ⟨'R', _, by rw [hne]; simp [reference]; rfl, by decide⟩
    case neg =>
      obtain ⟨c, t, rfl, hc⟩ := hw.exists_head hne
      exact ⟨c, _, rfl, hc⟩

end TypedResources.Call
