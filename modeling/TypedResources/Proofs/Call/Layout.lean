import TypedResources.Proofs.Call.Overlap
import TypedResources.Proofs.Pattern.Found

-- Where the text of a call is cut. A call ends with the parenthesis that closes the one behind its
-- method, what stands between them is laid out as its shape says, and the parts of the call are cut
-- from there (`call_laid_out`). A text that is laid out so for a shape with any number of arguments
-- is found whole.

namespace TypedResources.Call

open Text (Balanced Shallow isBlank isWord outer)
open TypedResources.Pattern
  (Reads Repeats reads_cons reads_all_cons reads_all_nil reads_opt_iff reads_blanks_iff reads_char_iff
  reads_word_iff reads_wordChars_iff)

variable {shape : Shape} {w u v : List Char} {kept : List (Slot × List Char)} {c d : Char} {s t : List Char}
  {p : Char → Bool}

-- One argument before the reference, and a comma behind it.
def HasContext (w : List Char) : Prop :=
  ∃ u a v gap, w = u ++ a ++ v ++ ',' :: gap ∧ Blanks u ∧ Blanks v ∧ Blanks gap ∧
    Shallow a ∧ commas a = 0 ∧ ¬Blanks a

-- A comma behind the reference, and arguments behind it.
def HasArguments (w arguments : List Char) (accepts : List Char → Prop) : Prop :=
  ∃ gap body, w = gap ++ ',' :: body ∧ Blanks gap ∧ Shallow body ∧ ¬Blanks body ∧ accepts body ∧
    arguments = Text.trim body

-- What the shape of a call says about the text around its reference and about its arguments.
def Arguments.Allow (arguments : Arguments) (k : Layout) (given : List Char) : Prop :=
  match arguments with
  | .none    => Blanks k.before ∧ Blanks k.behind ∧ given = []
  | .rest    => Blanks k.before ∧ HasArguments k.behind given fun _ => True
  | .two     => Blanks k.before ∧ HasArguments k.behind given fun body => commas body = 1
  | .context => HasContext k.before ∧ Blanks k.behind ∧ given = []

structure Layout.Fit (k : Layout) (shape : Shape) (given : List Char) : Prop where
  receiver  : Receives k.receiver
  package   : Dotted k.package
  field     : k.field ≠ [] ∧ ∀ c ∈ k.field, isWord c
  arguments : shape.arguments.Allow k given

-- The layout is that of a text that was read with these parts kept.
structure Layout.Of (k : Layout) (shape : Shape) (w : List Char) (kept : List (Slot × List Char)) : Prop where
  text    : w = k.text shape
  spelled : k.Spelled shape
  given   : Text.trim ((kept.lookup .arguments).getD []) = k.given
  package : kept.lookup .package = if k.package = [] then none else some k.package
  field   : kept.lookup .field = some k.field

theorem Parts.Of.layout {p : Parts} (h : p.Of shape w kept) : p.layout.Of shape w kept :=
  ⟨h.text.trans (p.text_layout shape).symm, h.spelled, (congrArg Text.trim h.arguments).trans h.given, h.package, h.field⟩

theorem exists_layout (hs : shape ∈ shapes) (h : shape.pattern.Reads w kept) : ∃ k : Layout, k.Of shape w kept :=
  have ⟨p, hp⟩ := exists_parts hs h
  ⟨p.layout, hp.layout⟩

theorem Layout.Spelled.fit {k : Layout} (h : k.Spelled shape) : k.Fit shape k.given where
  receiver  := h.receiver.receives
  package   := h.package
  field     := h.field
  arguments := by
    have ht := h.arguments
    cases ha : shape.arguments <;> rw [ha] at ht
    case none => exact ⟨ht.1, ht.2, given_of_blanks ht.2⟩
    case rest =>
      obtain ⟨hb, gap, body, hk, hg, hbody, hne⟩ := ht
      exact ⟨hb, gap, body, hk, hg, hbody, hne, trivial, given_of_comma hk hg⟩
    case two =>
      obtain ⟨hb, gap, x, y, hk, hg, hx, hy⟩ := ht
      refine ⟨hb, gap, x ++ ',' :: y, hk, hg, hx.level.shallow.append (shallow_comma.append hy.level.shallow), ?_, ?_,
        given_of_comma hk hg⟩
      · exact fun hn => hx.not_blanks fun c hc => hn c (List.mem_append_left _ hc)
      · show commas (x ++ ',' :: y) = 1
        rw [commas_append hx.level.shallow.balanced, ← List.singleton_append, commas_append shallow_comma.balanced,
          commas_of_level hx.level, commas_of_level hy.level]
        rfl
    case context =>
      obtain ⟨⟨x, gap, hk, hx, hg⟩, hd⟩ := ht
      have hcommas := commas_of_level hx.level
      refine ⟨⟨[], x, [], gap, by simpa using hk, nofun, nofun, hg, hx.level.shallow, hcommas, hx.not_blanks⟩, hd,
        given_of_blanks hd⟩

theorem Layout.Of.fit {k : Layout} (h : k.Of shape w kept) : k.Fit shape (Text.trim ((kept.lookup .arguments).getD [])) :=
  h.given ▸ h.spelled.fit

theorem HasArguments.balanced {given : List Char} {accepts : List Char → Prop} (h : HasArguments w given accepts) :
    Balanced w := by
  obtain ⟨gap, body, rfl, hg, hb, -⟩ := h
  exact hg.shallow.balanced.append (shallow_comma.append hb).balanced

theorem HasContext.balanced (h : HasContext w) : Balanced w := by
  obtain ⟨u, a, v, gap, rfl, hu, hv, hg, ha, -⟩ := h
  exact (((hu.shallow.append ha).append hv.shallow).append (shallow_comma.append hg.shallow)).balanced

theorem Arguments.Allow.balanced {arguments : Arguments} {k : Layout} {given : List Char} (h : arguments.Allow k given) :
    Balanced k.before ∧ Balanced k.behind := by
  cases arguments
  case none    => exact ⟨h.1.shallow.balanced, h.2.1.shallow.balanced⟩
  case rest    => exact ⟨h.1.shallow.balanced, h.2.balanced⟩
  case two     => exact ⟨h.1.shallow.balanced, h.2.balanced⟩
  case context => exact ⟨h.1.balanced, h.2.1.shallow.balanced⟩

theorem Layout.Fit.balanced {k : Layout} {given : List Char} (h : k.Fit shape given) (hs : shape ∈ shapes) :
    Balanced (k.inner shape) := by
  have ⟨hb, hd⟩ := h.arguments.balanced
  exact (hb.append (h.package.balanced.append (balanced_reference hs h.field.2))).append hd

-- A text is laid out in one way.

-- A reference with a package in front of it.
def cited (shape : Shape) (package field : List Char) : List Char :=
  package ++ (reference shape.tag (String.ofList field)).toList

theorem cited_inj (hu : ∀ c ∈ u, isWord c) (hv : ∀ c ∈ v, isWord c) (h : cited shape s u = cited shape t v) :
    s = t ∧ u = v := by
  have hrev : u.reverse ++ '.' :: (s ++ ("R." ++ shape.tag).toList).reverse =
      v.reverse ++ '.' :: (t ++ ("R." ++ shape.tag).toList).reverse := by
    simpa [cited, reference] using congrArg List.reverse h
  obtain ⟨huv, -, hst⟩ := Text.eq_of_stretch (by simpa using hu) (by simpa using hv) (by decide) (by decide) hrev
  exact ⟨List.append_cancel_right (List.reverse_inj.mp hst), List.reverse_inj.mp huv⟩

-- There is one stretch of names between blanks.
theorem eq_of_run {r r' : List Char} (hu : Blanks u) (hv : Blanks v) (hr : Run r) (hr' : Run r')
    (hs : ∀ c ∈ s.getLast?, Introduces c) (ht : ∀ c ∈ t.head?, isWord c = false ∧ c ≠ '.')
    (h : u ++ (r ++ v) = s ++ (r' ++ t)) : u = s ∧ r = r' ∧ v = t := by
  have hwords {w : List Char} (hw : Run w) : ∀ c ∈ w, isWord c || c = '.' := fun c hc => by simpa using hw.chars c hc
  have heq (he : r ++ v = r' ++ t) : r = r' ∧ v = t := by
    refine Text.eq_of_class (hwords hr) (hwords hr') (fun c hc => ?_) (fun c hc => by simpa using ht c hc) he
    have hb := hv c (List.mem_of_mem_head? hc)
    have hdot : c ≠ '.' := fun hd => absurd (hd ▸ hb) (by decide)
    simp [Text.not_isWord_of_isBlank hb, hdot]
  rcases List.append_eq_append_iff.mp h with ⟨x, rfl, hx⟩ | ⟨x, rfl, hx⟩
  case inl =>
    rcases List.eq_nil_or_concat x with rfl | ⟨x, c, rfl⟩
    case inl => exact ⟨(List.append_nil u).symm, heq hx⟩
    case inr =>
      -- Such a character does not stand among the names, and behind them only blanks do.
      have hc : Introduces c := hs c (by simp)
      obtain ⟨y, -, hy⟩ := Text.exists_behind (hr.notMem hc.not_isWord hc.ne.1) (by simpa using hx)
      obtain ⟨d, z, rfl, hd⟩ := hr'.exists_not_isBlank
      exact absurd (hv d (hy ▸ by simp)) (by simp [hd])
  case inr =>
    rcases x with _ | ⟨c, x⟩
    case nil  => exact ⟨List.append_nil s, (heq hx.symm)⟩
    case cons =>
      obtain ⟨d, z, rfl, hd⟩ := hr'.exists_not_isBlank
      have hc : d = c := (List.cons.inj hx).left
      exact absurd (hu c (by simp)) (by simp [← hc, hd])

theorem head_inner_ne {k : Layout} (h : Balanced (k.inner shape)) (t : List Char) :
    (k.inner shape ++ t).head? ≠ some ')' := by
  have hne : k.inner shape ≠ [] := by simp [Layout.inner, reference]
  rw [List.head?_append_of_ne_nil _ hne]
  intro hc
  obtain ⟨s, hs⟩ := List.head?_eq_some_iff.mp hc
  rw [hs] at h
  cases h

theorem Blanks.introduces (h : Blanks w) : ∀ c ∈ w.getLast?, Introduces c :=
  fun c hc => .inr (.inr (h c (List.mem_of_mem_getLast? hc)))

theorem Blanks.not_names (h : Blanks w) : ∀ c ∈ w.head?, isWord c = false ∧ c ≠ '.' := by
  intro c hc
  have hb := h c (List.mem_of_mem_head? hc)
  exact ⟨Text.not_isWord_of_isBlank hb, fun hd => absurd (hd ▸ hb) (by decide)⟩

theorem HasContext.exists_level (h : HasContext w) : ∃ x gap, w = x ++ ',' :: gap ∧ Level (· ≠ ',') x ∧ Blanks gap := by
  obtain ⟨u, a, v, gap, rfl, hu, hv, hg, ha, hn, -⟩ := h
  have hl : Level (· ≠ ',') a := ⟨ha, fun c hc => decide_eq_true fun he => List.count_eq_zero.mp hn (he ▸ hc)⟩
  exact ⟨u ++ a ++ v, gap, rfl, additive_level.append (additive_level.append hu.level hl) hv.level, hg⟩

namespace Layout

variable {k k' : Layout} {given given' : List Char}

theorem inner_eq : k.inner shape = k.before ++ (cited shape k.package k.field ++ k.behind) := by
  simp [inner, cited]

theorem Fit.run (h : k.Fit shape given) (hs : shape ∈ shapes) : Run (cited shape k.package k.field) :=
  run_reference hs h.package h.field.right

theorem eq_of_inner (hs : shape ∈ shapes) (h : k.Fit shape given) (h' : k'.Fit shape given')
    (he : k.inner shape = k'.inner shape) :
    k.before = k'.before ∧ cited shape k.package k.field = cited shape k'.package k'.field ∧ k.behind = k'.behind := by
  have hr := h.run hs
  have hr' := h'.run hs
  have hwords {k : Layout} (hk : Run (cited shape k.package k.field)) :
      Level (· ≠ ',') (cited shape k.package k.field) := level_of_words hk.chars
  have he : k.before ++ (cited shape k.package k.field ++ k.behind) =
      k'.before ++ (cited shape k'.package k'.field ++ k'.behind) := by
    rwa [inner_eq, inner_eq] at he
  have hbehind (hb : Blanks k.before) (hb' : Blanks k'.before) {g g' : List Char} {p p' : List Char → Prop}
      (ha : HasArguments k.behind g p) (ha' : HasArguments k'.behind g' p') :
      k.before = k'.before ∧ cited shape k.package k.field = cited shape k'.package k'.field ∧ k.behind = k'.behind := by
    obtain ⟨gap, body, hk, hg, -⟩ := ha
    obtain ⟨gap', body', hk', hg', -⟩ := ha'
    have hcut : (k.before ++ (cited shape k.package k.field ++ gap)) ++ ',' :: body =
        (k'.before ++ (cited shape k'.package k'.field ++ gap')) ++ ',' :: body' := by
      simpa [hk, hk'] using he
    have hl := additive_level.append hb.level (additive_level.append (hwords hr) hg.level)
    have hl' := additive_level.append hb'.level (additive_level.append (hwords hr') hg'.level)
    obtain ⟨hfront, rfl⟩ := eq_of_comma hl hl' hcut
    obtain ⟨hbb, hrr, rfl⟩ := eq_of_run hb hg hr hr' hb'.introduces hg'.not_names hfront
    exact ⟨hbb, hrr, hk.trans hk'.symm⟩
  have ha := h.arguments
  have ha' := h'.arguments
  cases hn : shape.arguments <;> rw [hn] at ha ha'
  case none => exact eq_of_run ha.1 ha.2.1 hr hr' ha'.1.introduces ha'.2.1.not_names he
  case rest => exact hbehind ha.1 ha'.1 ha.2 ha'.2
  case two  => exact hbehind ha.1 ha'.1 ha.2 ha'.2
  case context =>
    obtain ⟨x, gap, hx, hl, hg⟩ := ha.1.exists_level
    obtain ⟨x', gap', hx', hl', hg'⟩ := ha'.1.exists_level
    obtain ⟨rfl, hrest⟩ := eq_of_comma hl hl' (by simpa [hx, hx'] using he)
    obtain ⟨rfl, hrr, hbb⟩ := eq_of_run hg ha.2.1 hr hr' hg'.introduces ha'.2.1.not_names hrest
    exact ⟨hx.trans hx'.symm, hrr, hbb⟩

-- Two calls that a text begins with are laid out alike.
theorem eq_of_text (hs : shape ∈ shapes) (h : k.Fit shape given) (h' : k'.Fit shape given') (hc : Chain k.receiver)
    (hc' : Chain k'.receiver) (he : k.text shape ++ s = k'.text shape ++ t) : k = k' ∧ s = t := by
  have he : k.receiver ++ (shape.method.toList ++ '(' :: (k.inner shape ++ ')' :: s)) =
      k'.receiver ++ (shape.method.toList ++ '(' :: (k'.inner shape ++ ')' :: t)) := by
    simpa [text] using he
  have hhead := head_inner_ne (h.balanced hs) (')' :: s)
  have hhead' := head_inner_ne (h'.balanced hs) (')' :: t)
  obtain ⟨hrec, hinner⟩ := hc.eq (isWord_method hs).2 hc' hhead hhead' he
  obtain ⟨hin, rfl⟩ := Text.eq_of_closed (h.balanced hs) (h'.balanced hs) hinner
  obtain ⟨hbefore, href, hbehind⟩ := eq_of_inner hs h h' hin
  obtain ⟨hpackage, hfield⟩ := cited_inj h.field.right h'.field.right href
  obtain ⟨receiver, before, package, field, behind⟩ := k
  obtain ⟨receiver', before', package', field', behind'⟩ := k'
  exact ⟨by simp_all, rfl⟩

end Layout

-- A call is found where its text begins.

theorem isFree_resource (tag : String) : (Pattern.resource tag).isFree := by
  simp only [Pattern.resource, TypedResources.Pattern.isFree_all, TypedResources.Pattern.isFree_word, List.all_cons,
    List.all_nil]
  rfl

theorem isFree_tail (shape : Shape) : shape.tail.all TypedResources.Pattern.isFree := by
  unfold Shape.tail
  cases shape.arguments <;> simp only [List.all_cons, isFree_resource] <;> rfl

theorem solid_pattern (hs : shape ∈ shapes) : shape.pattern.Solid := by
  intro w kept h
  obtain ⟨k, hk⟩ := exists_layout hs h
  rw [hk.text]
  simp [Layout.text]

-- A pattern is found exactly where a text begins that is spelled as it asks, and no name goes on there.
theorem isSome_occurrenceAt?_iff {before : Option Char} {text : List Char} {i : Nat} (hs : shape ∈ shapes) :
    (shape.pattern.occurrenceAt? before text i).isSome ↔
      (∀ c ∈ before, joins c = false) ∧ ∃ (k : Layout) (rest : List Char), k.Spelled shape ∧ text = k.text shape ++ rest := by
  have hfree : (TypedResources.Pattern.all
      (.all [Pattern.receiver, .word (shape.method ++ "("), .blanks] :: shape.tail)).isFree := by
    rw [TypedResources.Pattern.isFree_all, List.all_cons, isFree_tail, TypedResources.Pattern.isFree_all]
    simp only [List.all_cons, TypedResources.Pattern.isFree_word]
    rfl
  have hsolid := solid_pattern hs
  have hbegins : shape.pattern.Begins text ↔
      ∃ (k : Layout) (rest : List Char), k.Spelled shape ∧ text = k.text shape ++ rest := by
    constructor
    case mp =>
      rintro ⟨w, kept, hw, rest, rfl⟩
      obtain ⟨k, hk⟩ := exists_layout hs hw
      exact ⟨k, rest, hk.spelled, by rw [← hk.text]⟩
    case mpr =>
      rintro ⟨k, rest, hk, rfl⟩
      obtain ⟨kept, hr⟩ := hk.reads
      exact ⟨_, kept, hr, rest, rfl⟩
  rw [← hbegins]
  rw [Shape.pattern_eq] at hsolid ⊢
  exact TypedResources.Pattern.isSome_occurrenceAt?_head_iff hsolid hfree

theorem exists_occurrenceAt? {k : Layout} {before : Option Char} (hs : shape ∈ shapes) (h : k.Spelled shape)
    (hb : ∀ c ∈ before, joins c = false) (rest : List Char) (i : Nat) :
    ∃ o, shape.pattern.occurrenceAt? before (k.text shape ++ rest) i = some o ∧ k.Of shape o.text o.kept := by
  obtain ⟨o, ho⟩ := Option.isSome_iff_exists.mp ((isSome_occurrenceAt?_iff hs (i := i)).mpr ⟨hb, k, rest, h, rfl⟩)
  obtain ⟨-, hr, t, ht⟩ := TypedResources.Pattern.reads_of_occurrenceAt? ho
  obtain ⟨k', hk'⟩ := exists_layout hs hr
  rw [hk'.text] at ht
  obtain ⟨rfl, -⟩ := Layout.eq_of_text hs hk'.spelled.fit h.fit hk'.spelled.receiver h.receiver ht
  exact ⟨o, ho, hk'⟩

-- The same for one that stands at the beginning of a text.
theorem exists_whole {k : Layout} (hs : shape ∈ shapes) (h : k.Spelled shape) (rest : List Char) :
    ∃ o, (shape.pattern.occurrences (k.text shape ++ rest)).head? = some o ∧ o.start = 0 ∧ o.text = k.text shape := by
  have hb : ∀ c ∈ (none : Option Char), joins c = false := nofun
  obtain ⟨o, ho, hk⟩ := exists_occurrenceAt? hs h hb rest 0
  exact ⟨o, TypedResources.Pattern.head?_occurrences ho, (TypedResources.Pattern.reads_of_occurrenceAt? ho).1, hk.text⟩

theorem Layout.Fit.spelled {k : Layout} {given : List Char} (ha : shape.arguments = .rest) (hk : k.receiver = [])
    (h : k.Fit shape given) : k.Spelled shape where
  receiver  := hk ▸ .nil
  package   := h.package
  field     := h.field
  arguments := by
    have hallow := h.arguments
    rw [ha] at hallow ⊢
    obtain ⟨hb, gap, body, hbehind, hg, hbody, hne, -⟩ := hallow
    exact ⟨hb, gap, body, hbehind, hg, hbody, hne⟩

theorem package_of_layout {k : Layout} {o : Occurrence Slot} (h : k.Of shape o.text o.kept) :
    (ofOccurrence shape o).package = if k.package = [] then none else some k.package.dropLast := by
  rw [ofOccurrence, Occurrence.get?, h.package]
  split
  case isTrue      => rfl
  case isFalse hne => exact congrArg some ((qualifies_of_dotted h.fit.package).resolve_left hne).dropDots

-- A call is cut where its shape says: from the name of its method to the parenthesis that closes
-- the one behind it, with one comma between two arguments behind the reference, with none in a
-- context before it, and with the parts of the call taken from there.
theorem call_laid_out (hs : shape ∈ shapes) :
    (∀ text o, (o ∈ shape.pattern.occurrences text ∨
        ∃ before i, shape.pattern.occurrenceAt? before text i = some o) →
      ∃ k : Layout, o.text = k.text shape ∧ Balanced (k.inner shape) ∧ k.Fit shape (ofOccurrence shape o).arguments ∧
        (ofOccurrence shape o).package = (if k.package = [] then none else some k.package.dropLast) ∧
        (ofOccurrence shape o).field = k.field) ∧
    (shape.arguments = .rest → ∀ (k : Layout) (given rest : List Char), k.receiver = [] → k.Fit shape given →
      ∃ o, (shape.pattern.occurrences (k.text shape ++ rest)).head? = some o ∧ o.start = 0 ∧ o.text = k.text shape) := by
  refine ⟨fun text o ho => ?_, fun ha k given rest hk h => exists_whole hs (h.spelled ha hk) rest⟩
  have hr : shape.pattern.Reads o.text o.kept := by
    rcases ho with ho | ⟨before, i, ho⟩
    case inl => exact TypedResources.Pattern.reads_of_mem_occurrences ho
    case inr => exact (TypedResources.Pattern.reads_of_occurrenceAt? ho).2.1
  obtain ⟨k, hk⟩ := exists_layout hs hr
  exact ⟨k, hk.text, hk.fit.balanced hs, hk.fit, package_of_layout hk, congrArg (Option.getD · []) hk.field⟩

-- A call with two arguments behind its reference, the first of which is a call itself.
def formattedShape : Shape :=
  ⟨"getString", [.values .string], .rest⟩

def formattedLayout : Layout :=
  ⟨[], " ".toList, "a.b.".toList, "c".toList, " , f(x), 1 ".toList⟩

theorem formatted_laid_out : formattedShape ∈ shapes ∧
    formattedLayout.text formattedShape = "getString( a.b.R.string.c , f(x), 1 )".toList ∧
    formattedLayout.Fit formattedShape "f(x), 1".toList ∧
    ∃ o, (formattedShape.pattern.occurrences (formattedLayout.text formattedShape ++ " + 1".toList)).head? = some o ∧
      o.text = formattedLayout.text formattedShape ∧
      ∃ k : Layout, o.text = k.text formattedShape ∧ k.Fit formattedShape (ofOccurrence formattedShape o).arguments := by
  have hs : formattedShape ∈ shapes := by decide
  have hfit : formattedLayout.Fit formattedShape "f(x), 1".toList :=
    ⟨.inl rfl, ⟨["a".toList, "b".toList], rfl, by simp; decide⟩, ⟨by decide, List.all_eq_true.mp (by decide)⟩,
      by decide, " ".toList, " f(x), 1 ".toList, rfl, by decide, by decide, by decide, trivial, by decide⟩
  have ⟨hcut, hfound⟩ := call_laid_out hs
  obtain ⟨o, ho, -, ht⟩ := hfound rfl formattedLayout _ " + 1".toList rfl hfit
  obtain ⟨k, hk, -, hkfit, -⟩ := hcut _ o (.inl (List.mem_of_mem_head? ho))
  exact ⟨hs, by decide, hfit, o, ho, ht, k, hk, hkfit⟩

end TypedResources.Call
