import Mathlib.Data.List.DropRight
import TypedResources.Call.Basic
import TypedResources.Proofs.Call.Spelling

-- The parts that make up the text of a call. Every text that the pattern of a shape reads is put
-- together from such parts (`exists_parts`). A call does not say where they are, but its text tells
-- where the reference and the arguments begin (`front_call`, `lead_call`).

namespace TypedResources

namespace Text

variable {c : Char} {s t : List Char} {p : Char → Bool}

theorem rdropWhile_append_of_all (h : ∀ c ∈ t, p c) : (s ++ t).rdropWhile p = s.rdropWhile p := by
  rw [List.rdropWhile, List.reverse_append, List.dropWhile_append_of_pos (by simpa using h), List.rdropWhile]

theorem rdropWhile_append_of_exists (h : ∃ c ∈ t, p c = false) : (s ++ t).rdropWhile p = s ++ t.rdropWhile p := by
  have hne : t.rdropWhile p ≠ [] := by simpa [List.rdropWhile_eq_nil_iff] using h
  have he : (t.reverse.dropWhile p).isEmpty = false := by simpa [List.rdropWhile] using hne
  rw [List.rdropWhile, List.reverse_append, List.dropWhile_append, he, if_neg (by decide), List.reverse_append,
    List.reverse_reverse, List.rdropWhile]

theorem rdrop_append_length : (s ++ t).rdrop t.length = s := by
  simp [List.rdrop]

end Text

namespace Call

open TypedResources.Pattern (Reads)

variable {shape : Shape} {w : List Char} {kept : List (Slot × List Char)} {a b : Pattern.P} {ps : List Pattern.P}

-- A pattern of balanced texts that keeps nothing of them.
def Balancing (a : Pattern.P) : Prop :=
  ∀ w kept, a.Reads w kept → Text.Balanced w ∧ kept = []

-- What a stretch of arguments is like.
structure Fills (w : List Char) : Prop where
  balanced : Text.Balanced w
  first    : ∃ c t, w = c :: t ∧ Text.isBlank c = false

theorem fills_of_reads (ha : Balancing a) (hb : Begins a) (h : a.Reads w kept) : Fills w ∧ kept = [] :=
  ⟨⟨(ha w kept h).1, hb w kept h⟩, (ha w kept h).2⟩

theorem balancing_of_only {p : Char → Bool} (h : Only (Level p) a) : Balancing a :=
  fun w kept hr => (h w kept hr).imp_left (·.shallow.balanced)

theorem balancing_argument : Balancing Pattern.argument :=
  balancing_of_only only_argument

theorem balancing_arguments : Balancing Pattern.arguments :=
  balancing_of_only only_arguments

theorem balanced_of_blanks (h : ∀ c ∈ w, Text.isBlank c) : Text.Balanced w :=
  .of_not_isParen fun c hc => Text.not_isParen_of_isBlank (h c hc)

theorem balanced_of_comma (h : ∀ c ∈ w, Text.isBlank c ∨ c = ',') : Text.Balanced w := by
  refine .of_not_isParen fun c hc => ?_
  rcases h c hc with hb | rfl
  case inl => exact Text.not_isParen_of_isBlank hb
  case inr => rfl

theorem of_reads_comma (h : Pattern.comma.Reads w kept) :
    (w ≠ [] ∧ ∀ c ∈ w, Text.isBlank c ∨ c = ',') ∧ kept = [] := by
  obtain ⟨⟨u, v, rfl, hu, hv⟩, hk⟩ := reads_comma_iff.mp h
  refine ⟨⟨by simp, fun c hc => ?_⟩, hk⟩
  rcases List.mem_append.mp hc with hc | hc
  case inl => exact .inl (hu c hc)
  case inr => exact (List.mem_cons.mp hc).symm.imp_left (hv c)

theorem fills_of_reads_two
    (h : (TypedResources.Pattern.all [Pattern.argument, Pattern.comma, Pattern.argument]).Reads w kept) :
    Fills w ∧ kept = [] :=
  have ⟨hs, hf, _, hk⟩ := of_reads_two h
  ⟨⟨hs.balanced, hf⟩, hk⟩

-- The names of a package with a dot behind each.
def Qualifies (w : List Char) : Prop :=
  ∃ u c, w = u ++ [c, '.'] ∧ Text.isWord c ∧ ∀ x ∈ u, Text.isWord x ∨ x = '.'

theorem qualifies_of_dotted (h : Dotted w) : w = [] ∨ Qualifies w := by
  obtain ⟨names, rfl, hn⟩ := h
  rcases List.eq_nil_or_concat names with rfl | ⟨names, name, rfl⟩
  case inl => exact .inl rfl
  case inr =>
    have ⟨hne, hw⟩ := hn name (by simp)
    obtain ⟨name, c, rfl⟩ := (List.eq_nil_or_concat name).resolve_left hne
    refine .inr ⟨names.flatMap (· ++ ['.']) ++ name, c, by simp, hw c (by simp), fun x hx => ?_⟩
    rcases List.mem_append.mp hx with hx | hx
    case inr => exact .inl (hw x (by simp [hx]))
    case inl =>
      obtain ⟨n, hm, hx⟩ := List.mem_flatMap.mp hx
      exact (List.mem_append.mp hx).imp ((hn n (by simp [hm])).2 x) List.mem_singleton.mp

-- Nothing but the last dot is cut off behind a package.
theorem Qualifies.dropDots (h : Qualifies w) : (w.reverse.dropWhile (· = '.')).reverse = w.dropLast := by
  obtain ⟨u, c, rfl, hc, -⟩ := h
  have hdot : c ≠ '.' := fun he => absurd (he ▸ hc) (by decide)
  simp [hdot]

-- What stands before the arguments begins with a word character, and of the characters in it that
-- are neither word characters nor dots one of these comes first.
def Fronts (w : List Char) : Prop :=
  ∃ u c v, w = u ++ c :: v ∧ u ≠ [] ∧ (∀ x ∈ u.head?, Text.isWord x) ∧ (∀ x ∈ u, Text.isWord x ∨ x = '.') ∧
    c ∈ ['@', '?', '!', '<', '(']

theorem of_mem_marks {c : Char} (h : c ∈ ['@', '?', '!', '<', '(']) :
    Text.isWord c = false ∧ Text.isBlank c = false ∧ c ≠ '.' ∧ c ≠ ',' ∧ c ≠ ')' := by
  simp only [List.mem_cons, List.not_mem_nil, or_false] at h
  rcases h with rfl | rfl | rfl | rfl | rfl <;> decide

variable {u s : List Char}

theorem fronts_of_words {c : Char} (hne : u ≠ []) (hu : ∀ x ∈ u, Text.isWord x) (v : List Char)
    (hc : c ∈ ['@', '?', '!', '<', '(']) : Fronts (u ++ c :: v) :=
  ⟨u, c, v, rfl, hne, fun x hx => hu x (List.mem_of_mem_head? hx), fun x hx => .inl (hu x hx), hc⟩

theorem Fronts.append (hw : Fronts w) (s : List Char) : Fronts (w ++ s) := by
  obtain ⟨u, c, v, rfl, h⟩ := hw
  exact ⟨u, c, v ++ s, by simp, h⟩

theorem Fronts.of_words_dot (hne : u ≠ []) (hu : ∀ x ∈ u, Text.isWord x) (hs : Fronts s) :
    Fronts (u ++ ['.'] ++ s) := by
  obtain ⟨u', c, v, rfl, _, _, hu', hc⟩ := hs
  refine ⟨u ++ ['.'] ++ u', c, v, by simp, by simp, fun x hx => ?_, fun x hx => ?_, hc⟩
  · rw [List.append_assoc, List.head?_append_of_ne_nil _ hne] at hx
    exact hu x (List.mem_of_mem_head? hx)
  · simp only [List.mem_append, List.mem_singleton] at hx
    rcases hx with (hx | hx) | hx
    · exact .inl (hu x hx)
    · exact .inr hx
    · exact hu' x hx

theorem Chain.fronts (h : Chain w) (hs : Fronts s) : Fronts (w ++ s) := by
  induction h with
  | nil           => exact hs
  | cons hl _ ih =>
    rw [List.append_assoc]
    obtain @⟨name, middle, access, hne, hname, hm, ha⟩ := hl
    cases hm
    case none =>
      cases ha
      case plain => exact .of_words_dot hne hname ih
      case safe  => exact .append (fronts_of_words hne hname ['.'] (by decide)) _
      case sure  => exact .append (fronts_of_words hne hname ['!', '.'] (by decide)) _
    all_goals exact .append (fronts_of_words hne hname _ (by decide)) _

-- The stretches of the text of a call, apart from the name of its method and its own parentheses.
structure Parts where
  receiver  : List Char
  opening   : List Char
  package   : List Char
  field     : List Char
  gap       : List Char
  arguments : List Char
  trail     : List Char

namespace Parts

variable {p : Parts}

def reference (p : Parts) (shape : Shape) : List Char :=
  p.package ++ (TypedResources.reference shape.tag (String.ofList p.field)).toList

def front (p : Parts) (shape : Shape) : List Char :=
  p.receiver ++ shape.method.toList ++ '(' :: p.opening

def lead (p : Parts) (shape : Shape) : List Char :=
  p.front shape ++ p.reference shape ++ p.gap

def text (p : Parts) (shape : Shape) : List Char :=
  p.lead shape ++ p.arguments ++ p.trail ++ [')']

def layout (p : Parts) : Layout :=
  ⟨p.receiver, p.opening, p.package, p.field, p.gap ++ p.arguments ++ p.trail⟩

theorem text_layout (p : Parts) (shape : Shape) : p.layout.text shape = p.text shape := by
  simp [layout, Layout.text, Layout.inner, text, lead, front, reference]

-- How the parts of a call of a shape are made. A call has a context before its reference or
-- arguments behind it, but not both.
structure Fit (p : Parts) (shape : Shape) : Prop where
  fronts    : Fronts (p.receiver ++ shape.method.toList ++ ['('])
  opening   : Text.Balanced p.opening
  package   : p.package = [] ∨ Qualifies p.package
  field     : p.field ≠ [] ∧ ∀ c ∈ p.field, Text.isWord c
  gap       : ∀ c ∈ p.gap, Text.isBlank c ∨ c = ','
  arguments : p.gap = [] ∧ p.arguments = [] ∨
    (∀ c ∈ p.opening, Text.isBlank c) ∧ p.gap ≠ [] ∧ Fills p.arguments
  trail     : ∀ c ∈ p.trail, Text.isBlank c

-- A reference ends with a word character.
theorem Fit.rdropWhile_reference (h : p.Fit shape) {q : Char → Bool} (hq : ∀ c, Text.isWord c → q c = false) :
    (s ++ p.reference shape).rdropWhile q = s ++ p.reference shape := by
  have ⟨hne, hw⟩ := h.field
  obtain ⟨u, c, hf⟩ := (List.eq_nil_or_concat p.field).resolve_left hne
  have hc : ¬q c := by simp [hq c (hw c (by simp [hf]))]
  have hr : s ++ p.reference shape = s ++ (p.package ++ ("R." ++ shape.tag ++ ".").toList ++ u) ++ [c] := by
    simp [reference, TypedResources.reference, hf]
  rw [hr, List.rdropWhile_concat_neg _ _ _ hc]

theorem Fit.balanced_arguments (h : p.Fit shape) : Text.Balanced p.arguments := by
  rcases h.arguments with ⟨-, ha⟩ | ⟨-, -, ha⟩
  case inl => rw [ha]; exact .nil
  case inr => exact ha.balanced

end Parts

theorem isWord_method (hs : shape ∈ shapes) : shape.method.toList ≠ [] ∧ ∀ c ∈ shape.method.toList, Text.isWord c := by
  have h : ∀ shape ∈ shapes, shape.method.toList ≠ [] ∧ shape.method.toList.all Text.isWord := by decide
  exact (h shape hs).imp_right List.all_eq_true.mp

theorem Chain.fronts_method (hs : shape ∈ shapes) (h : Chain w) : Fronts (w ++ shape.method.toList ++ ['(']) := by
  obtain ⟨hne, hm⟩ := isWord_method hs
  simpa using h.fronts (fronts_of_words hne hm [] (c := '(') (by decide))

theorem trim_append {v : List Char} (hu : Blanks u) (hv : Blanks v) (h : ∃ c t, w = c :: t ∧ Text.isBlank c = false) :
    Text.trim (u ++ w ++ v) = Text.trim w := by
  obtain ⟨c, t, rfl, hc⟩ := h
  have hstart (x : List Char) : (c :: x).dropWhile Text.isBlank = c :: x := List.dropWhile_cons_of_neg (by simp [hc])
  rw [Text.trim, Text.trim, Text.trimStart, Text.trimStart, List.append_assoc, List.dropWhile_append_of_pos hu,
    List.cons_append, hstart, hstart, ← List.cons_append]
  exact Text.rdropWhile_append_of_all hv

-- The parts make up a text that was read with these parts kept.
structure Parts.Of (p : Parts) (shape : Shape) (w : List Char) (kept : List (Slot × List Char)) : Prop where
  fit       : p.Fit shape
  spelled   : p.layout.Spelled shape
  text      : w = p.text shape
  package   : kept.lookup .package = if p.package = [] then none else some p.package
  field     : kept.lookup .field = some p.field
  arguments : (kept.lookup .arguments).getD [] = p.arguments
  given     : Text.trim p.arguments = p.layout.given

theorem parts_of_reads_none (hs : shape ∈ shapes) (hn : shape.arguments = .none) (h : (TypedResources.Pattern.all
      [shape.head, Pattern.resource shape.tag, .seq .blanks (.char ')')]).Reads w kept) : ∃ p : Parts, p.Of shape w kept := by
  obtain ⟨_, _, _, _, hh, ⟨_, _, _, _, hr, ⟨_, _, _, _, hc, ⟨rfl, rfl⟩, rfl, rfl⟩, rfl, rfl⟩, rfl, rfl⟩ := h
  obtain ⟨⟨receiver, opening, rfl, hrec, ho⟩, rfl⟩ := reads_head_iff.mp hh
  obtain ⟨package, field, rfl, hp, hf, rfl⟩ := reads_resource_iff.mp hr
  obtain ⟨⟨trail, rfl, ht⟩, rfl⟩ := reads_close_iff.mp hc
  refine ⟨⟨receiver, opening, package, field, [], [], trail⟩,
    ⟨hrec.fronts_method hs, balanced_of_blanks ho, qualifies_of_dotted hp, hf, nofun, .inl ⟨rfl, rfl⟩, ht⟩,
    ⟨hrec, hp, hf, ?_⟩, ?_, ?_, rfl, ?_, (Layout.given_of_blanks ht).symm⟩
  · rw [hn]; exact ⟨ho, ht⟩
  · simp [Parts.text, Parts.lead, Parts.front, Parts.reference, TypedResources.reference]
  all_goals split <;> rfl

theorem parts_of_reads_behind (hs : shape ∈ shapes) (hf : ∀ w kept, a.Reads w kept → Fills w ∧ kept = [])
    (htakes : ∀ before u v w trail, Blanks before → Blanks u → Blanks v → Blanks trail → a.Reads w [] →
      shape.arguments.Takes before (u ++ ',' :: v ++ w ++ trail)) (h : (TypedResources.Pattern.all
      [shape.head, Pattern.resource shape.tag, Pattern.comma, .keep .arguments a, .seq .blanks (.char ')')]).Reads w kept) :
    ∃ p : Parts, p.Of shape w kept := by
  obtain ⟨_, _, _, _, hh, ⟨_, _, _, _, hr, ⟨gap, _, _, _, hg, ⟨arguments, _, _, _, ⟨_, ha, rfl⟩,
    ⟨_, _, _, _, hc, ⟨rfl, rfl⟩, rfl, rfl⟩, rfl, rfl⟩, rfl, rfl⟩, rfl, rfl⟩, rfl, rfl⟩ := h
  obtain ⟨⟨receiver, opening, rfl, hrec, ho⟩, rfl⟩ := reads_head_iff.mp hh
  obtain ⟨package, field, rfl, hp, hw, rfl⟩ := reads_resource_iff.mp hr
  obtain ⟨⟨hne, hgap⟩, rfl⟩ := of_reads_comma hg
  obtain ⟨⟨u, v, rfl, hu, hv⟩, -⟩ := reads_comma_iff.mp hg
  obtain ⟨hfills, rfl⟩ := hf _ _ ha
  obtain ⟨⟨trail, rfl, ht⟩, rfl⟩ := reads_close_iff.mp hc
  refine ⟨⟨receiver, opening, package, field, u ++ ',' :: v, arguments, trail⟩,
    ⟨hrec.fronts_method hs, balanced_of_blanks ho, qualifies_of_dotted hp, hw, hgap, .inr ⟨ho, hne, hfills⟩, ht⟩,
    ⟨hrec, hp, hw, htakes _ u v _ _ ho hu hv ht ha⟩, ?_, ?_, rfl, rfl, ?_⟩
  · simp [Parts.text, Parts.lead, Parts.front, Parts.reference, TypedResources.reference]
  · split <;> rfl
  · have hbehind : (Parts.layout ⟨receiver, opening, package, field, u ++ ',' :: v, arguments, trail⟩).behind =
        u ++ ',' :: (v ++ arguments ++ trail) := by simp [Parts.layout]
    rw [Layout.given_of_comma hbehind hu, trim_append hv ht hfills.first]

theorem parts_of_reads_context (hs : shape ∈ shapes) (hn : shape.arguments = .context) (h : (TypedResources.Pattern.all
      [shape.head, Pattern.argument, Pattern.comma, Pattern.resource shape.tag, .seq .blanks (.char ')')]).Reads w kept) :
    ∃ p : Parts, p.Of shape w kept := by
  obtain ⟨_, _, _, _, hh, ⟨context, _, _, _, ha, ⟨_, _, _, _, hg, ⟨_, _, _, _, hr,
    ⟨_, _, _, _, hc, ⟨rfl, rfl⟩, rfl, rfl⟩, rfl, rfl⟩, rfl, rfl⟩, rfl, rfl⟩, rfl, rfl⟩ := h
  obtain ⟨⟨receiver, opening, rfl, hrec, ho⟩, rfl⟩ := reads_head_iff.mp hh
  obtain ⟨hb, rfl⟩ := balancing_argument _ _ ha
  obtain ⟨⟨-, hgap⟩, rfl⟩ := of_reads_comma hg
  obtain ⟨⟨u, v, rfl, hu, hv⟩, -⟩ := reads_comma_iff.mp hg
  obtain ⟨package, field, rfl, hp, hw, rfl⟩ := reads_resource_iff.mp hr
  obtain ⟨⟨trail, rfl, ht⟩, rfl⟩ := reads_close_iff.mp hc
  have hopening : Text.Balanced (opening ++ context ++ (u ++ ',' :: v)) :=
    ((balanced_of_blanks ho).append hb).append (balanced_of_comma hgap)
  refine ⟨⟨receiver, opening ++ context ++ (u ++ ',' :: v), package, field, [], [], trail⟩,
    ⟨hrec.fronts_method hs, hopening, qualifies_of_dotted hp, hw, nofun, .inl ⟨rfl, rfl⟩, ht⟩, ⟨hrec, hp, hw, ?_⟩, ?_, ?_,
    rfl, ?_, (Layout.given_of_blanks ht).symm⟩
  · rw [hn]; exact ⟨⟨opening ++ context ++ u, v, by simp [Parts.layout], sole_of_reads ho hu ha, hv⟩, ht⟩
  · simp [Parts.text, Parts.lead, Parts.front, Parts.reference, TypedResources.reference]
  all_goals split <;> rfl

theorem exists_parts (hs : shape ∈ shapes) (h : shape.pattern.Reads w kept) : ∃ p : Parts, p.Of shape w kept := by
  rw [Shape.pattern_eq, Shape.tail] at h
  split at h
  case h_1 hn => exact parts_of_reads_none hs hn h
  case h_4 hn => exact parts_of_reads_context hs hn h
  case h_2 hn =>
    refine parts_of_reads_behind hs (fun _ _ => fills_of_reads balancing_arguments begins_arguments) ?_ h
    intro before u v w trail hb hu hv ht ha
    obtain ⟨⟨hw, hfirst⟩, -⟩ := reads_arguments_iff.mp ha
    rw [hn]
    exact ⟨hb, u, v ++ w ++ trail, by simp, hu, (hv.shallow.append hw).append ht.shallow, not_blanks hfirst v trail⟩
  case h_3 hn =>
    refine parts_of_reads_behind hs (fun _ _ => fills_of_reads_two) ?_ h
    intro before u v w trail hb hu hv ht ha
    obtain ⟨x, _, _, _, hx, ⟨_, _, _, _, hg, ⟨y, _, _, _, hy, ⟨rfl, rfl⟩, rfl, rfl⟩, rfl, rfl⟩, rfl, hk⟩ := ha
    obtain ⟨-, rfl⟩ := only_argument _ _ hx
    obtain ⟨-, rfl⟩ := only_argument _ _ hy
    obtain ⟨⟨u', v', rfl, hu', hv'⟩, -⟩ := reads_comma_iff.mp hg
    rw [hn]
    exact ⟨hb, u, v ++ x ++ u', v' ++ y ++ trail, by simp, hu, sole_of_reads hv hu' hx, sole_of_reads hv' ht hy⟩

-- The reference as it is written.
def qualified (c : Call) : List Char :=
  (c.package.map (· ++ ['.'])).getD [] ++ c.key.toList

-- The text up to the arguments behind the reference.
def lead (c : Call) : List Char :=
  (c.text.dropLast.rdropWhile Text.isBlank).rdrop c.arguments.length

-- The text up to the reference.
def front (c : Call) : List Char :=
  (c.lead.rdropWhile fun x => Text.isBlank x || x = ',').rdrop c.qualified.length

theorem lead_prefix (c : Call) : c.lead <+: c.text :=
  (List.take_prefix _ _).trans ((List.rdropWhile_prefix _ _).trans (List.dropLast_prefix _))

theorem front_prefix (c : Call) : c.front <+: c.text :=
  (List.take_prefix _ _).trans ((List.rdropWhile_prefix _ _).trans c.lead_prefix)

section

variable {p : Parts} {o : Occurrence Slot} (h : p.Of shape o.text o.kept)

include h

theorem field_call : (ofOccurrence shape o).field = p.field :=
  congrArg (Option.getD · []) h.field

theorem package_call : (ofOccurrence shape o).package = if p.package = [] then none else some p.package.dropLast := by
  rw [ofOccurrence, Occurrence.get?, h.package]
  split
  case isTrue      => rfl
  case isFalse hne => exact congrArg some (h.fit.package.resolve_left hne).dropDots

theorem qualified_call : (ofOccurrence shape o).qualified = p.reference shape := by
  rw [qualified, package_call h, key, field_call h, Parts.reference]
  rcases h.fit.package with hp | ⟨u, c, hp, -, -⟩ <;> simp [hp, ofOccurrence]

theorem ne_nil_of_package {q : List Char} (hq : (ofOccurrence shape o).package = some q) : q ≠ [] := by
  rw [package_call h] at hq
  rcases h.fit.package with hp | ⟨u, c, hp, -, -⟩
  case inl => simp [hp] at hq
  case inr =>
    have hu : u ++ [c] = q := by simpa [hp] using hq
    simp [← hu]

theorem arguments_call : (ofOccurrence shape o).arguments = p.arguments.rdropWhile Text.isBlank := by
  refine (congrArg Text.trim h.arguments).trans ?_
  rcases h.fit.arguments with ⟨-, ha⟩ | ⟨-, -, -, c, t, ha, hc⟩
  case inl => rw [ha]; rfl
  case inr => rw [Text.trim, Text.trimStart, ha, List.dropWhile_cons_of_neg (by simp [hc])]; rfl

theorem lead_call : (ofOccurrence shape o).lead = p.lead shape := by
  have ht : (ofOccurrence shape o).text.dropLast = p.lead shape ++ p.arguments ++ p.trail := by
    rw [ofOccurrence, h.text, Parts.text, List.dropLast_concat]
  rw [lead, arguments_call h, ht, Text.rdropWhile_append_of_all h.fit.trail]
  rcases h.fit.arguments with ⟨hg, ha⟩ | ⟨-, -, -, c, t, ha, hc⟩
  case inl =>
    rw [ha, Parts.lead, hg, List.append_nil, List.append_nil,
      h.fit.rdropWhile_reference fun c hc => Text.not_isBlank_of_isWord hc]
    exact List.rdrop_zero _
  case inr => rw [Text.rdropWhile_append_of_exists ⟨c, by simp [ha], hc⟩, Text.rdrop_append_length]

theorem front_call : (ofOccurrence shape o).front = p.front shape := by
  have hgap : ∀ c ∈ p.gap, Text.isBlank c || decide (c = ',') := fun c hc => by simpa using h.fit.gap c hc
  rw [front, lead_call h, qualified_call h, Parts.lead, Text.rdropWhile_append_of_all hgap,
    h.fit.rdropWhile_reference fun c hc => ?_, Text.rdrop_append_length]
  have hcomma : c ≠ ',' := fun he => absurd (he ▸ hc) (by decide)
  simp [Text.not_isBlank_of_isWord hc, hcomma]

end

end Call

end TypedResources
