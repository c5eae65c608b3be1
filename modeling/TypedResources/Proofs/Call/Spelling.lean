import Mathlib.Data.List.TakeWhile
import TypedResources.Call.Basic
import TypedResources.Proofs.Call.Receiver

-- The texts that are spelled as the pattern of a shape asks. What the pattern reads is spelled so, and what is
-- spelled so is read (`Layout.Spelled.reads`); `exists_parts` gives the other direction.

namespace TypedResources.Call

open Text (Balanced Shallow isBlank isWord)
open TypedResources.Pattern (Reads reads_cons reads_all_cons reads_all_nil reads_seq_iff reads_blanks_iff reads_char_iff
  reads_word_iff)

variable {shape : Shape} {w u v : List Char} {kept : List (Slot × List Char)} {c : Char} {q : Char → Bool}

-- A character that a call cannot stand behind.
def joins (c : Char) : Bool :=
  isWord c || c = '.' || c = '@'

-- What the pattern of a shape reads up to the parenthesis, and behind it.
def Shape.head (shape : Shape) : Pattern.P :=
  .all [.notAfter joins, Pattern.receiver, .word (shape.method ++ "("), .blanks]

def Shape.tail (shape : Shape) : List Pattern.P :=
  let close := .seq .blanks (.char ')')
  match shape.arguments with
  | .none    => [Pattern.resource shape.tag, close]
  | .rest    => [Pattern.resource shape.tag, Pattern.comma, .keep .arguments Pattern.arguments, close]
  | .two     => [Pattern.resource shape.tag, Pattern.comma,
      .keep .arguments (.all [Pattern.argument, Pattern.comma, Pattern.argument]), close]
  | .context => [Pattern.argument, Pattern.comma, Pattern.resource shape.tag, close]

theorem Shape.pattern_eq (shape : Shape) : shape.pattern = .all (shape.head :: shape.tail) := by
  unfold Shape.pattern Shape.tail
  cases shape.arguments <;> rfl

-- The stretches of the text of a call around its reference.
structure Layout where
  receiver : List Char
  before   : List Char
  package  : List Char
  field    : List Char
  behind   : List Char

-- One argument with the blanks around it, as the patterns find it.
structure Sole (w : List Char) : Prop where
  level      : Level (· ≠ ',') w
  not_blanks : ¬Blanks w
  group      : LoneGroup (w.dropWhile isBlank)

-- What the parentheses of a call hold before its reference and behind it.
def Arguments.Takes (before behind : List Char) : Arguments → Prop
  | .none    => Blanks before ∧ Blanks behind
  | .rest    => Blanks before ∧ ∃ gap body, behind = gap ++ ',' :: body ∧ Blanks gap ∧ Shallow body ∧ ¬Blanks body
  | .two     => Blanks before ∧ ∃ gap x y, behind = gap ++ ',' :: (x ++ ',' :: y) ∧ Blanks gap ∧ Sole x ∧ Sole y
  | .context => (∃ x gap, before = x ++ ',' :: gap ∧ Sole x ∧ Blanks gap) ∧ Blanks behind

namespace Layout

-- What stands between the parenthesis behind the method and the end.
def inner (k : Layout) (shape : Shape) : List Char :=
  k.before ++ (k.package ++ (reference shape.tag (String.ofList k.field)).toList) ++ k.behind

def text (k : Layout) (shape : Shape) : List Char :=
  k.receiver ++ shape.method.toList ++ '(' :: k.inner shape ++ [')']

-- The arguments behind the reference.
def given (k : Layout) : List Char :=
  Text.trim ((k.behind.dropWhile (· ≠ ',')).drop 1)

theorem given_of_comma {k : Layout} {gap body : List Char} (hk : k.behind = gap ++ ',' :: body) (hg : Blanks gap) :
    k.given = Text.trim body := by
  have hne : ∀ c ∈ gap, decide (c ≠ ',') := fun c hc => decide_eq_true fun he => absurd (he ▸ hg c hc) (by decide)
  rw [given, hk, List.dropWhile_append_of_pos hne, List.dropWhile_cons_of_neg (by simp)]
  rfl

theorem given_of_blanks {k : Layout} (hk : Blanks k.behind) : k.given = [] := by
  have hne : ∀ c ∈ k.behind, decide (c ≠ ',') := fun c hc => decide_eq_true fun he => absurd (he ▸ hk c hc) (by decide)
  rw [given, List.dropWhile_eq_nil_iff.mpr hne]
  rfl

structure Spelled (k : Layout) (shape : Shape) : Prop where
  receiver  : Chain k.receiver
  package   : Dotted k.package
  field     : k.field ≠ [] ∧ ∀ c ∈ k.field, isWord c
  arguments : shape.arguments.Takes k.before k.behind

end Layout

-- One argument.

theorem not_blanks (h : ∃ c t, w = c :: t ∧ isBlank c = false) (u v : List Char) : ¬Blanks (u ++ w ++ v) := by
  obtain ⟨c, t, rfl, hc⟩ := h
  intro hb
  exact absurd (hb c (by simp)) (by simp [hc])

theorem dropWhile_blanks (hu : Blanks u) (h : ∃ c t, w = c :: t ∧ isBlank c = false) (v : List Char) :
    (u ++ w ++ v).dropWhile isBlank = w ++ v := by
  obtain ⟨c, t, rfl, hc⟩ := h
  rw [List.append_assoc, List.dropWhile_append_of_pos hu, List.cons_append, List.dropWhile_cons_of_neg (by simp [hc])]

theorem exists_begin (h : ¬Blanks w) : ∃ u v, w = u ++ v ∧ Blanks u ∧ w.dropWhile isBlank = v ∧
    ∃ c t, v = c :: t ∧ isBlank c = false := by
  refine ⟨w.takeWhile isBlank, w.dropWhile isBlank, List.takeWhile_append_dropWhile.symm,
    fun c hc => List.mem_takeWhile_imp hc, rfl, ?_⟩
  cases hd : w.dropWhile isBlank
  case nil      => exact absurd (List.dropWhile_eq_nil_iff.mp hd) h
  case cons c t => exact ⟨c, t, rfl, by simpa [hd] using List.head_dropWhile_not isBlank (l := w) (by simp [hd])⟩

theorem sole_of_reads (hu : Blanks u) (hv : Blanks v) (h : Pattern.argument.Reads w []) : Sole (u ++ w ++ v) := by
  obtain ⟨⟨hl, hfirst, hg⟩, -⟩ := reads_argument_iff.mp h
  refine ⟨additive_level.append (additive_level.append hu.level hl) hv.level, not_blanks hfirst u v, ?_⟩
  rw [dropWhile_blanks hu hfirst]
  have hcount : v.count '(' = 0 := List.count_eq_zero.mpr fun hc => absurd (hv _ hc) (by decide)
  obtain ⟨c, t, rfl, -⟩ := hfirst
  intro ho
  rw [List.count_append, hcount, Nat.add_zero]
  exact hg ho

theorem Sole.exists_argument (h : Sole w) : ∃ u v, w = u ++ v ∧ Blanks u ∧ Pattern.argument.Reads v [] := by
  obtain ⟨u, v, rfl, hu, hd, hfirst⟩ := exists_begin h.not_blanks
  have hp : ∀ c ∈ u, Text.isParen c = false := fun c hc => Text.not_isParen_of_isBlank (hu c hc)
  have hl : Level (· ≠ ',') v := by
    refine ⟨.of_append hp h.level.shallow, fun c hc => h.level.outer c ?_⟩
    rw [Text.outer_append (Text.openAfter_of_not_isParen hp)]
    exact List.mem_append_right _ hc
  exact ⟨u, v, rfl, hu, reads_argument_iff.mpr ⟨⟨hl, hfirst, hd ▸ h.group⟩, rfl⟩⟩

-- The ends of a call.

theorem reads_head_iff : shape.head.Reads w kept ↔
    (∃ receiver opening, w = receiver ++ shape.method.toList ++ '(' :: opening ∧ Chain receiver ∧ Blanks opening) ∧
      kept = [] := by
  simp only [Shape.head, reads_all_cons, reads_all_nil, reads_word_iff, reads_blanks_iff, reads_receiver_iff]
  constructor
  case mp =>
    rintro ⟨_, _, _, _, ⟨rfl, rfl⟩, ⟨receiver, _, _, _, ⟨hr, rfl⟩, ⟨_, _, _, _, ⟨rfl, rfl⟩,
      ⟨opening, _, _, _, ⟨ho, rfl⟩, ⟨rfl, rfl⟩, rfl, rfl⟩, rfl, rfl⟩, rfl, rfl⟩, rfl, rfl⟩
    exact ⟨⟨receiver, opening, by simp, hr, ho⟩, rfl⟩
  case mpr =>
    rintro ⟨⟨receiver, opening, rfl, hr, ho⟩, rfl⟩
    exact ⟨[], _, [], [], ⟨rfl, rfl⟩, ⟨receiver, _, [], [], ⟨hr, rfl⟩, ⟨_, opening, [], [], ⟨rfl, rfl⟩,
      ⟨opening, [], [], [], ⟨ho, rfl⟩, ⟨rfl, rfl⟩, by simp, rfl⟩, rfl, rfl⟩, rfl, rfl⟩, by simp, rfl⟩

theorem reads_close_iff : (TypedResources.Pattern.seq .blanks (.char ')') : Pattern.P).Reads w kept ↔
    (∃ trail, w = trail ++ [')'] ∧ Blanks trail) ∧ kept = [] := by
  simp only [reads_seq_iff, reads_blanks_iff, reads_char_iff]
  constructor
  case mp =>
    rintro ⟨trail, _, _, _, ⟨ht, rfl⟩, ⟨rfl, rfl⟩, rfl, rfl⟩
    exact ⟨⟨trail, rfl, ht⟩, rfl⟩
  case mpr =>
    rintro ⟨⟨trail, rfl, ht⟩, rfl⟩
    exact ⟨trail, [')'], [], [], ⟨ht, rfl⟩, ⟨rfl, rfl⟩, rfl, rfl⟩

-- What is spelled as the shape asks is read.

namespace Layout.Spelled

variable {k : Layout} (h : k.Spelled shape)

include h

theorem reads_head (hu : Blanks u) : shape.head.Reads (k.receiver ++ shape.method.toList ++ '(' :: u) [] :=
  reads_head_iff.mpr ⟨⟨_, _, rfl, h.receiver, hu⟩, rfl⟩

theorem reads_resource : ∃ kept, (Pattern.resource shape.tag).Reads
    (k.package ++ (reference shape.tag (String.ofList k.field)).toList) kept :=
  ⟨_, reads_resource_iff.mpr ⟨_, _, rfl, h.package, h.field, rfl⟩⟩

theorem reads_behind {a : Pattern.P} {gap lead arguments : List Char} (hb : Blanks k.before) (hg : Blanks gap)
    (hl : Blanks lead) (ha : a.Reads arguments []) (hk : k.behind = gap ++ ',' :: (lead ++ arguments)) :
    ∃ kept, (TypedResources.Pattern.all [shape.head, Pattern.resource shape.tag, Pattern.comma, .keep .arguments a,
      .seq .blanks (.char ')')]).Reads (k.text shape) kept := by
  obtain ⟨kr, hr⟩ := h.reads_resource
  have hall := reads_cons (h.reads_head hb) (reads_cons hr
    (reads_cons (reads_comma_iff.mpr ⟨⟨gap, lead, rfl, hg, hl⟩, rfl⟩) (reads_cons (p := .keep .arguments a) ⟨_, ha, rfl⟩
      (reads_cons (reads_close_iff.mpr ⟨⟨[], rfl, nofun⟩, rfl⟩) (reads_all_nil.mpr ⟨rfl, rfl⟩)))))
  exact ⟨_, by simpa [Layout.text, Layout.inner, hk] using hall⟩

theorem reads : ∃ kept, shape.pattern.Reads (k.text shape) kept := by
  have ht := h.arguments
  rw [Shape.pattern_eq, Shape.tail]
  split
  case h_1 ha =>
    rw [ha] at ht
    obtain ⟨hb, hd⟩ := ht
    obtain ⟨kr, hr⟩ := h.reads_resource
    have hall := reads_cons (h.reads_head hb) (reads_cons hr
      (reads_cons (reads_close_iff.mpr ⟨⟨_, rfl, hd⟩, rfl⟩) (reads_all_nil.mpr ⟨rfl, rfl⟩)))
    exact ⟨_, by simpa [Layout.text, Layout.inner] using hall⟩
  case h_2 ha =>
    rw [ha] at ht
    obtain ⟨hb, gap, body, hk, hg, hs, hne⟩ := ht
    obtain ⟨lead, arguments, rfl, hl, -, hfirst⟩ := exists_begin hne
    have hs : Shallow arguments := .of_append (fun c hc => Text.not_isParen_of_isBlank (hl c hc)) hs
    exact h.reads_behind hb hg hl (reads_arguments_iff.mpr ⟨⟨hs, hfirst⟩, rfl⟩) hk
  case h_3 ha =>
    rw [ha] at ht
    obtain ⟨hb, gap, x, y, hk, hg, hx, hy⟩ := ht
    obtain ⟨lead, x, rfl, hl, hx⟩ := hx.exists_argument
    obtain ⟨lead', y, rfl, hl', hy⟩ := hy.exists_argument
    have ha := reads_cons hx (reads_cons (reads_comma_iff.mpr ⟨⟨[], lead', rfl, nofun, hl'⟩, rfl⟩)
      (reads_cons hy (reads_all_nil.mpr ⟨rfl, rfl⟩)))
    exact h.reads_behind hb hg hl ha (by simpa using hk)
  case h_4 ha =>
    rw [ha] at ht
    obtain ⟨⟨x, gap, hk, hx, hg⟩, hd⟩ := ht
    obtain ⟨lead, x, rfl, hl, hx⟩ := hx.exists_argument
    obtain ⟨kr, hr⟩ := h.reads_resource
    have hall := reads_cons (h.reads_head hl) (reads_cons hx
      (reads_cons (reads_comma_iff.mpr ⟨⟨[], gap, rfl, nofun, hg⟩, rfl⟩) (reads_cons hr
        (reads_cons (reads_close_iff.mpr ⟨⟨_, rfl, hd⟩, rfl⟩) (reads_all_nil.mpr ⟨rfl, rfl⟩)))))
    exact ⟨_, by simpa [Layout.text, Layout.inner, hk] using hall⟩

end Layout.Spelled

end TypedResources.Call
