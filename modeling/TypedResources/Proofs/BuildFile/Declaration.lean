import TypedResources.BuildFile.Module
import TypedResources.Proofs.Naming
import TypedResources.Proofs.Pattern.Alternatives
import TypedResources.Proofs.Text.Brackets

-- Declarations of dependencies. What a pattern for dependencies reads is a declaration, with one pair of
-- quotes, around the path of the project (`declares_of_mem_syntaxes`). No declaration begins within
-- another one (`not_inside`), and those of two syntaxes do not begin at one place (`eq_of_begin`), so
-- that the patterns are apart (`pairwise_apart`).

namespace TypedResources.BuildFile

open Text (isBlank isWord eq_of_stretch)
open Pattern (Reads reads_blanks_iff reads_char_iff reads_many1_one_iff reads_word_iff)

variable {u v w x y z s t : List Char} {kept : List (Unit × List Char)} {c : Char}

-- The stretches of a declaration, from its configuration to its last parenthesis.
structure Declaration where
  configuration : String
  gap           : List Char
  opening       : List Char
  left          : Char
  inner         : List Char
  right         : Char
  closing       : List Char

namespace Declaration

variable {d e : Declaration}

def text (d : Declaration) : List Char :=
  d.configuration.toList ++ (d.gap ++ ("project".toList ++ (d.opening ++
    ([d.left] ++ (d.inner ++ (d.right :: d.closing))))))

-- Blanks and then the character.
def Leads (c : Char) (w : List Char) : Prop :=
  ∃ u v, w = u ++ c :: v ∧ ∀ x ∈ u, isBlank x

structure Fit (d : Declaration) : Prop where
  configuration : d.configuration = "implementation" ∨ d.configuration = "api"
  gap           : ∀ c ∈ d.gap, isWord c = false ∧ unquoted c
  opening       : ∀ c ∈ d.opening, isWord c = false ∧ unquoted c
  left          : unquoted d.left = false
  inner         : (∀ c ∈ d.inner, unquoted c) ∧ Leads ':' d.inner
  right         : unquoted d.right = false
  closing       : (∀ c ∈ d.closing, isWord c = false) ∧ Leads ')' d.closing

end Declaration

theorem quote_iff : (c = '"' || c = '\'') = true ↔ unquoted c = false := by
  simp [unquoted, Decidable.or_iff_not_imp_left]

theorem not_isWord_of_quote (h : unquoted c = false) : isWord c = false := by
  have hc : c = '"' ∨ c = '\'' := by simpa using quote_iff.mpr h
  rcases hc with rfl | rfl <;> decide

-- A text that begins with a word character begins behind a stretch without any.
theorem pass_gap (hu : ∀ c ∈ u, isWord c = false) (hy : ∀ c ∈ y.head?, isWord c)
    (h : x ++ y = u ++ v) : ∃ x', x = u ++ x' ∧ x' ++ y = v := by
  rcases List.append_eq_append_iff.mp h with ⟨a, rfl, rfl⟩ | ⟨a, rfl, rfl⟩
  case inr => exact ⟨a, rfl, rfl⟩
  case inl =>
    cases a
    case nil      => exact ⟨[], by simp, rfl⟩
    case cons c a =>
      have hc := hu c (by simp)
      simp [hy c rfl] at hc

-- A text that does not begin right behind a word character begins behind any word that it does not
-- begin with.
theorem pass_word (hu : ∀ c ∈ u, isWord c) (hne : x ≠ []) (hx : ∀ c ∈ x.getLast?, isWord c = false)
    (h : x ++ y = u ++ v) :
    ∃ x', x' ≠ [] ∧ x = u ++ x' ∧ x' ++ y = v ∧ ∀ c ∈ x'.getLast?, isWord c = false := by
  have hnot {a : List Char} : ¬(∀ c ∈ x ++ a, isWord c) := by
    intro ha
    have hl := List.getLast?_eq_some_getLast hne
    have := ha _ (List.mem_append_left a (List.getLast_mem hne))
    simp [hx _ hl] at this
  rcases List.append_eq_append_iff.mp h with ⟨a, rfl, rfl⟩ | ⟨a, rfl, rfl⟩
  case inl => exact absurd hu hnot
  case inr =>
    have hane : a ≠ [] := by
      rintro rfl
      exact hnot (a := []) (by simpa using hu)
    refine ⟨a, hane, rfl, rfl, fun c hc => hx c ?_⟩
    rwa [List.getLast?_append_of_ne_nil _ hane]

namespace Declaration

variable {d e : Declaration}

theorem Fit.words (h : d.Fit) : (∀ c ∈ d.configuration.toList, isWord c) ∧
    ∃ c r, d.configuration.toList = c :: r ∧ c ≠ 'p' := by
  rcases h.configuration with hc | hc <;> rw [hc]
  case inl => exact ⟨List.all_eq_true.mp (by decide), 'i', _, rfl, by decide⟩
  case inr => exact ⟨List.all_eq_true.mp (by decide), 'a', _, rfl, by decide⟩

theorem Fit.head (h : d.Fit) : ∃ c r, d.text = c :: r ∧ isWord c ∧ c ≠ 'p' := by
  obtain ⟨hw, c, r, hc, hne⟩ := h.words
  exact ⟨c, r ++ _, by rw [text, hc]; rfl, hw c (hc ▸ List.mem_cons_self), hne⟩

-- Up to its first quote a declaration has none.
def lead (d : Declaration) : List Char :=
  d.configuration.toList ++ (d.gap ++ ("project".toList ++ d.opening))

theorem text_eq_append : d.text = d.lead ++ d.left :: (d.inner ++ d.right :: d.closing) := by
  simp [text, lead]

theorem Fit.unquoted_lead (h : d.Fit) : ∀ c ∈ d.lead, unquoted c := by
  have hc : ∀ c ∈ d.configuration.toList, unquoted c := by
    rcases h.configuration with hc | hc <;> rw [hc] <;> exact List.all_eq_true.mp (by decide)
  simp only [lead, List.forall_mem_append]
  exact ⟨hc, fun c hc => (h.gap c hc).2, List.all_eq_true.mp (by decide), fun c hc => (h.opening c hc).2⟩

-- What is led by a colon is not led by a parenthesis.
theorem not_leads (hu : Leads ':' u) (hv : Leads ')' v) : u ++ s ≠ v ++ t := by
  obtain ⟨a, b, rfl, ha⟩ := hu
  obtain ⟨a', b', rfl, ha'⟩ := hv
  intro h
  rw [List.append_assoc, List.append_assoc] at h
  have := (eq_of_stretch (p := isBlank) ha ha' (by decide) (by decide) h).2.1
  cases this

-- A declaration does not begin within another one.
theorem not_inside (hd : d.Fit) (he : e.Fit) (hne : x ≠ []) (hx : ∀ c ∈ x.getLast?, isWord c = false)
    (h : x ++ (e.text ++ s) = d.text ++ t) : d.text.length ≤ x.length := by
  obtain ⟨c, r, hhead, hword, hp⟩ := he.head
  have hy : ∀ c ∈ (e.text ++ s).head?, isWord c := by
    rw [hhead]
    rintro _ ⟨⟩
    exact hword
  have hquote {q : Char} (hq : unquoted q = false) : ∀ c ∈ [q], isWord c = false :=
    List.forall_mem_singleton.mpr (not_isWord_of_quote hq)
  have h : x ++ (e.text ++ s) = d.configuration.toList ++ (d.gap ++ ("project".toList ++ (d.opening ++
      ([d.left] ++ (d.inner ++ ((d.right :: d.closing) ++ t)))))) := by
    rw [h]
    simp [text]
  obtain ⟨x, hne, rfl, h₁, hx⟩ := pass_word hd.words.1 hne hx h
  obtain ⟨x, rfl, h₂⟩ := pass_gap (fun c hc => (hd.gap c hc).1) hy h₁
  -- No configuration begins like the word for a project.
  have hne : x ≠ [] := by
    rintro rfl
    rw [hhead] at h₂
    exact hp (List.cons.inj h₂).1
  rw [List.getLast?_append_of_ne_nil _ hne] at hx
  obtain ⟨x, -, rfl, h₃, -⟩ := pass_word (u := "project".toList) (List.all_eq_true.mp (by decide)) hne hx h₂
  obtain ⟨x, rfl, h₄⟩ := pass_gap (fun c hc => (hd.opening c hc).1) hy h₃
  obtain ⟨x, rfl, h₅⟩ := pass_gap (hquote hd.left) hy h₄
  rcases List.append_eq_append_iff.mp h₅ with ⟨a, ha, h₆⟩ | ⟨x, rfl, h₆⟩
  -- The quote that closes the path would open another one.
  case inl =>
    rw [text_eq_append, List.append_assoc, List.cons_append, List.cons_append] at h₆
    have hinner : ∀ c ∈ a, unquoted c := fun c hc => hd.inner.1 c (ha ▸ List.mem_append_right _ hc)
    have hrest := (eq_of_stretch he.unquoted_lead hinner he.left hd.right h₆).2.2
    rw [List.append_assoc] at hrest
    exact absurd hrest (not_leads he.inner.2 hd.closing.2)
  case inr =>
    have hclosing : ∀ c ∈ d.right :: d.closing, isWord c = false :=
      List.forall_mem_cons.mpr ⟨not_isWord_of_quote hd.right, hd.closing.1⟩
    obtain ⟨x, rfl, -⟩ := pass_gap hclosing hy h₆.symm
    simp only [text, List.length_append]
    omega

-- Where two declarations begin, they are of the same configuration and have the same gap.
theorem eq_of_begin (hd : d.Fit) (he : e.Fit) (h : d.text ++ s = e.text ++ t) :
    d.configuration = e.configuration ∧ d.gap = e.gap := by
  have hc : d.configuration = e.configuration := by
    rcases hd.configuration with hc | hc <;> rcases he.configuration with hc' | hc' <;> rw [hc, hc']
    all_goals
      rw [text, text, hc, hc'] at h
      cases (List.cons.inj h).1
  refine ⟨hc, ?_⟩
  rw [text, text, hc] at h
  simp only [List.append_assoc] at h
  have h := List.append_cancel_left h
  have hgap {d : Declaration} (h : d.Fit) : ∀ c ∈ d.gap, (!isWord c) = true := fun c hc => by simp [(h.gap c hc).1]
  exact (eq_of_stretch (hgap hd) (hgap he) (by decide) (by decide) h).1

end Declaration

theorem unquoted_of_isBlank (h : isBlank c) : unquoted c := by
  have hne {q : Char} (hq : isBlank q = false) : c ≠ q := by
    rintro rfl
    simp [h] at hq
  simp [unquoted, hne (q := '"') (by decide), hne (q := '\'') (by decide)]

-- What stands between the words and the first quote of a declaration.
theorem bare_of_blank_or_open (h : ∀ c ∈ w, isBlank c ∨ c = '(') : ∀ c ∈ w, isWord c = false ∧ unquoted c := by
  intro c hc
  rcases h c hc with hb | rfl
  case inl => exact ⟨Text.not_isWord_of_isBlank hb, unquoted_of_isBlank hb⟩
  case inr => decide

-- A project behind a configuration and a gap, with what closes them.
theorem exists_declaration {configuration : String} {gap tail : List Char}
    (hc : configuration = "implementation" ∨ configuration = "api") (hgap : ∀ c ∈ gap, isBlank c ∨ c = '(')
    (h : projectPath.Reads w kept) (htail : ∀ c ∈ tail, isBlank c ∨ c = ')') : ∃ d : Declaration,
      d.Fit ∧ d.text = configuration.toList ++ (gap ++ (w ++ tail)) ∧ d.configuration = configuration ∧ d.gap = gap ∧
      ∃ name, kept = [((), name)] := by
  obtain ⟨_, _, _, _, r₁, h, rfl, rfl⟩ := h
  obtain ⟨b₁, _, _, _, r₂, h, rfl, rfl⟩ := h
  obtain ⟨_, _, _, _, r₃, h, rfl, rfl⟩ := h
  obtain ⟨b₂, _, _, _, r₄, h, rfl, rfl⟩ := h
  obtain ⟨_, _, _, _, ⟨⟨left, hleft, rfl⟩, rfl⟩, h, rfl, rfl⟩ := h
  obtain ⟨b₃, _, _, _, r₅, h, rfl, rfl⟩ := h
  obtain ⟨_, _, _, _, r₆, h, rfl, rfl⟩ := h
  obtain ⟨b₄, _, _, _, r₇, h, rfl, rfl⟩ := h
  obtain ⟨name, _, _, _, ⟨_, r₈, rfl⟩, h, rfl, rfl⟩ := h
  obtain ⟨b₅, _, _, _, r₉, h, rfl, rfl⟩ := h
  obtain ⟨_, _, _, _, ⟨⟨right, hright, rfl⟩, rfl⟩, h, rfl, rfl⟩ := h
  obtain ⟨b₆, _, _, _, r₁₀, ⟨_, _, _, _, r₁₁, ⟨rfl, rfl⟩, rfl, rfl⟩, rfl, rfl⟩ := h
  obtain ⟨rfl, rfl⟩ := reads_word_iff.mp r₁
  obtain ⟨h₁, rfl⟩ := reads_blanks_iff.mp r₂
  obtain ⟨rfl, rfl⟩ := reads_char_iff.mp r₃
  obtain ⟨h₂, rfl⟩ := reads_blanks_iff.mp r₄
  obtain ⟨h₃, rfl⟩ := reads_blanks_iff.mp r₅
  obtain ⟨rfl, rfl⟩ := reads_char_iff.mp r₆
  obtain ⟨h₄, rfl⟩ := reads_blanks_iff.mp r₇
  obtain ⟨⟨-, hname⟩, rfl⟩ := reads_many1_one_iff.mp r₈
  obtain ⟨h₅, rfl⟩ := reads_blanks_iff.mp r₉
  obtain ⟨h₆, rfl⟩ := reads_blanks_iff.mp r₁₀
  obtain ⟨rfl, rfl⟩ := reads_char_iff.mp r₁₁
  have hopening : ∀ c ∈ b₁ ++ '(' :: b₂, isBlank c ∨ c = '(' := by
    simp only [List.forall_mem_append, List.forall_mem_cons]
    exact ⟨fun c hc => .inl (h₁ c hc), by simp, fun c hc => .inl (h₂ c hc)⟩
  have hinner : ∀ c ∈ b₃ ++ ':' :: (b₄ ++ (name ++ b₅)), unquoted c := by
    simp only [List.forall_mem_append, List.forall_mem_cons]
    exact ⟨fun c hc => unquoted_of_isBlank (h₃ c hc), by decide, fun c hc => unquoted_of_isBlank (h₄ c hc),
      hname, fun c hc => unquoted_of_isBlank (h₅ c hc)⟩
  have hclosing : ∀ c ∈ b₆ ++ ')' :: tail, isWord c = false := by
    simp only [List.forall_mem_append, List.forall_mem_cons]
    refine ⟨fun c hc => Text.not_isWord_of_isBlank (h₆ c hc), by decide, fun c hc => ?_⟩
    rcases htail c hc with hb | rfl
    case inl => exact Text.not_isWord_of_isBlank hb
    case inr => decide
  refine ⟨⟨configuration, gap, b₁ ++ '(' :: b₂, left, b₃ ++ ':' :: (b₄ ++ (name ++ b₅)), right, b₆ ++ ')' :: tail⟩, ?_,
    by simp [Declaration.text], rfl, rfl, name, rfl⟩
  exact {
    configuration := hc
    gap           := bare_of_blank_or_open hgap
    opening       := bare_of_blank_or_open hopening
    left          := quote_iff.mp hleft
    inner         := ⟨hinner, b₃, _, rfl, h₃⟩
    right         := quote_iff.mp hright
    closing       := ⟨hclosing, b₆, _, rfl, h₆⟩
  }

-- Whether there is a parenthesis around the project.
def syntaxPattern (configuration : String) : Bool → Pattern Unit
  | true  => .all [.border isWord, .word configuration, .blanks, .char '(', .blanks, projectPath, .blanks, .char ')']
  | false => .all [.border isWord, .word configuration, .many1 (.one isBlank), projectPath]

-- The configurations of the patterns, each with and without a parenthesis.
def syntaxes : List (String × Bool) :=
  ["implementation", "api"].flatMap fun configuration => [(configuration, true), (configuration, false)]

theorem dependencyPatterns_eq : dependencyPatterns = syntaxes.map fun s => syntaxPattern s.1 s.2 :=
  rfl

-- Every fit of the pattern is a declaration of one configuration, either with a parenthesis in front
-- of the project or without any, at the border of a word.
structure Declares (configuration : String) (enclosed : Bool) (p : Pattern Unit) : Prop where
  declaration : ∀ w kept, p.Reads w kept → ∃ d : Declaration, d.Fit ∧ d.text = w ∧
    d.configuration = configuration ∧ (enclosed ↔ '(' ∈ d.gap) ∧ ∃ name, kept = [((), name)]
  border      : ∀ before rest i o, p.occurrenceAt? before rest i = some o →
    Pattern.isBorder isWord (⟨before, rest, i, []⟩ : Place Unit)

namespace Declares

variable {configuration configuration' : String} {enclosed enclosed' : Bool} {p q : Pattern Unit}

theorem solid (h : Declares configuration enclosed p) : p.Solid := by
  intro w kept hw
  obtain ⟨d, hd, rfl, -⟩ := h.declaration w kept hw
  obtain ⟨c, r, hc, -⟩ := hd.head
  simp [hc]

theorem excludes (hp : Declares configuration enclosed p) (hq : Declares configuration' enclosed' q)
    (hne : (configuration, enclosed) ≠ (configuration', enclosed')) : p.Excludes q := by
  intro before rest i o ho k hk
  refine Option.eq_none_iff_forall_ne_some.mpr fun o' ho' => ?_
  obtain ⟨-, hr, t, ht⟩ := Pattern.reads_of_occurrenceAt? ho
  obtain ⟨-, hr', s, hs⟩ := Pattern.reads_of_occurrenceAt? ho'
  obtain ⟨d, hd, hdt, rfl, hde, -⟩ := hp.declaration _ _ hr
  obtain ⟨e, he, het, rfl, hee, -⟩ := hq.declaration _ _ hr'
  rw [← hdt] at hk ht
  rw [← het] at hs
  cases k
  case zero =>
    obtain ⟨hc, hg⟩ := Declaration.eq_of_begin hd he (ht.trans hs.symm)
    have hb : enclosed = enclosed' := Bool.eq_iff_iff.mpr (by rw [hde, hee, hg])
    exact hne (Prod.ext hc hb)
  case succ k =>
    have hlt : k + 1 < rest.length := by
      have := congrArg List.length ht
      rw [List.length_append] at this
      omega
    have hx : rest.take (k + 1) ≠ [] := by simpa using List.ne_nil_of_length_pos (by omega)
    have hlast : ∀ c ∈ (rest.take (k + 1)).getLast?, isWord c = false := by
      intro c hc
      have hb := hq.border _ _ _ _ ho'
      obtain ⟨f, r, hf, hw, -⟩ := he.head
      rw [← hs, hf] at hb
      simpa [Pattern.isBorder, Option.mem_def.mp hc, hw] using hb
    have hle := Declaration.not_inside hd he hx hlast (by rw [hs, ht, List.take_append_drop])
    rw [List.length_take] at hle
    omega

theorem apart (hp : Declares configuration enclosed p) (hq : Declares configuration' enclosed' q)
    (hne : (configuration, enclosed) ≠ (configuration', enclosed')) : Pattern.Apart p q :=
  ⟨hp.excludes hq hne, hq.excludes hp hne.symm⟩

end Declares

section

variable {configuration : String} (hc : configuration = "implementation" ∨ configuration = "api")
include hc

-- A configuration applied to a project.
theorem declares_enclosed : Declares configuration true (syntaxPattern configuration true) where
  border := fun _ _ _ _ => Pattern.isBorder_of_occurrenceAt?
  declaration := by
    rintro w kept ⟨_, _, _, _, ⟨rfl, rfl⟩, hw, rfl, rfl⟩
    obtain ⟨_, _, _, _, r₁, hw, rfl, rfl⟩ := hw
    obtain ⟨b₁, _, _, _, r₂, hw, rfl, rfl⟩ := hw
    obtain ⟨_, _, _, _, r₃, hw, rfl, rfl⟩ := hw
    obtain ⟨b₂, _, _, _, r₄, hw, rfl, rfl⟩ := hw
    obtain ⟨_, _, _, _, hproject, hw, rfl, rfl⟩ := hw
    obtain ⟨b₃, _, _, _, r₅, ⟨_, _, _, _, r₆, ⟨rfl, rfl⟩, rfl, rfl⟩, rfl, rfl⟩ := hw
    obtain ⟨rfl, rfl⟩ := reads_word_iff.mp r₁
    obtain ⟨h₁, rfl⟩ := reads_blanks_iff.mp r₂
    obtain ⟨rfl, rfl⟩ := reads_char_iff.mp r₃
    obtain ⟨h₂, rfl⟩ := reads_blanks_iff.mp r₄
    obtain ⟨h₃, rfl⟩ := reads_blanks_iff.mp r₅
    obtain ⟨rfl, rfl⟩ := reads_char_iff.mp r₆
    have hgap : ∀ c ∈ b₁ ++ '(' :: b₂, isBlank c ∨ c = '(' := by
      simp only [List.forall_mem_append, List.forall_mem_cons]
      exact ⟨fun c hc => .inl (h₁ c hc), by simp, fun c hc => .inl (h₂ c hc)⟩
    have htail : ∀ c ∈ b₃ ++ [')'], isBlank c ∨ c = ')' := by
      simp only [List.forall_mem_append, List.forall_mem_singleton]
      exact ⟨fun c hc => .inl (h₃ c hc), by simp⟩
    obtain ⟨d, hd, ht, hdc, hg, hname⟩ := exists_declaration hc hgap hproject htail
    exact ⟨d, hd, by simpa using ht, hdc, by simp [hg], by simpa using hname⟩

-- A configuration and then a project.
theorem declares_bare : Declares configuration false (syntaxPattern configuration false) where
  border := fun _ _ _ _ => Pattern.isBorder_of_occurrenceAt?
  declaration := by
    rintro w kept ⟨_, _, _, _, ⟨rfl, rfl⟩, hw, rfl, rfl⟩
    obtain ⟨_, _, _, _, r₁, hw, rfl, rfl⟩ := hw
    obtain ⟨gap, _, _, _, r₂, ⟨_, _, _, _, hproject, ⟨rfl, rfl⟩, rfl, rfl⟩, rfl, rfl⟩ := hw
    obtain ⟨rfl, rfl⟩ := reads_word_iff.mp r₁
    obtain ⟨⟨-, hgap⟩, rfl⟩ := reads_many1_one_iff.mp r₂
    have htail : ∀ c ∈ ([] : List Char), isBlank c ∨ c = ')' := nofun
    obtain ⟨d, hd, ht, hdc, hg, hname⟩ := exists_declaration hc (fun c hc => .inl (hgap c hc)) hproject htail
    have hopen : '(' ∉ gap := fun hm => absurd (hgap _ hm) (by decide)
    exact ⟨d, hd, by simpa using ht, hdc, by simp [hg, hopen], by simpa using hname⟩

end

theorem declares_of_mem_syntaxes {s : String × Bool} (h : s ∈ syntaxes) :
    Declares s.1 s.2 (syntaxPattern s.1 s.2) := by
  obtain ⟨configuration, enclosed⟩ := s
  have hc : configuration = "implementation" ∨ configuration = "api" := by
    simp only [syntaxes, List.mem_flatMap, List.mem_cons, List.not_mem_nil] at h
    grind
  cases enclosed
  case true  => exact declares_enclosed hc
  case false => exact declares_bare hc

theorem solid_patterns : ∀ p ∈ dependencyPatterns, p.Solid := by
  rw [dependencyPatterns_eq, List.forall_mem_map]
  exact fun s hs => (declares_of_mem_syntaxes hs).solid

theorem pairwise_apart : dependencyPatterns.Pairwise Pattern.Apart := by
  rw [dependencyPatterns_eq, List.pairwise_map]
  have hn : syntaxes.Nodup := by decide
  exact hn.imp_of_mem fun hs ht hne => (declares_of_mem_syntaxes hs).apart (declares_of_mem_syntaxes ht) hne

end TypedResources.BuildFile
