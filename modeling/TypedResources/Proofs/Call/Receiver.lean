import TypedResources.Proofs.Call.Stretches

-- What stands before the method of a call. A receiver is a chain of links, each a name that is accessed, and
-- a text falls into the links of its chain in one way only (`Chain.eq`).

namespace TypedResources.Call

open Text (isBlank isWord)
open TypedResources.Pattern (Reads reads_all_cons reads_all_nil reads_opt_iff reads_char_iff reads_word_iff
  reads_wordChars_iff reads_many_one_iff reads_seq_iff reads_cons)

variable {kept : List (Slot × List Char)} {l l' r r' s t u v w : List Char} {c : Char}

-- What may stand behind the name of a link: a label, or the parentheses of a call, with its types before them.
inductive Middle : List Char → Prop
  | none : Middle []
  | label {name : List Char} (hne : name ≠ []) (hname : ∀ c ∈ name, isWord c) : Middle ('@' :: name)
  | call : Middle ['(', ')']
  | typed {types : List Char} (htypes : ∀ c ∈ types, c ≠ '<' ∧ c ≠ '>') : Middle ('<' :: types ++ ['>', '(', ')'])

inductive Access : List Char → Prop
  | plain : Access ['.']
  | safe  : Access ['?', '.']
  | sure  : Access ['!', '!', '.']

inductive Link : List Char → Prop
  | intro {name middle access : List Char} (hne : name ≠ []) (hname : ∀ c ∈ name, isWord c) (hm : Middle middle)
      (ha : Access access) : Link (name ++ (middle ++ access))

inductive Chain : List Char → Prop
  | nil : Chain []
  | cons {l w : List Char} (hl : Link l) (hw : Chain w) : Chain (l ++ w)

-- What is read.

theorem reads_access_iff : Pattern.access.Reads w kept ↔ Access w ∧ kept = [] := by
  constructor
  case mp =>
    intro h
    simp only [Pattern.access, reads_seq_iff, reads_opt_iff, Reads, reads_char_iff, reads_word_iff] at h
    obtain ⟨_, _, _, _, (⟨rfl, rfl⟩ | ⟨rfl, rfl⟩) | ⟨rfl, rfl⟩, ⟨rfl, rfl⟩, rfl, rfl⟩ := h
    · exact ⟨.safe, rfl⟩
    · exact ⟨.sure, rfl⟩
    · exact ⟨.plain, rfl⟩
  case mpr =>
    rintro ⟨h, rfl⟩
    have hdot : (TypedResources.Pattern.char '.' : Pattern.P).Reads ['.'] [] := reads_char_iff.mpr ⟨rfl, rfl⟩
    cases h
    case plain => exact ⟨[], ['.'], [], [], .inr ⟨rfl, rfl⟩, hdot, rfl, rfl⟩
    case safe  => exact ⟨['?'], ['.'], [], [], .inl (.inl (reads_char_iff.mpr ⟨rfl, rfl⟩)), hdot, rfl, rfl⟩
    case sure  => exact ⟨['!', '!'], ['.'], [], [], .inl (.inr (reads_word_iff.mpr ⟨rfl, rfl⟩)), hdot, rfl, rfl⟩

-- One link of a receiver.
abbrev link : Pattern.P :=
  .alt (.all [.wordChars, .opt (.seq (.char '@') .wordChars), Pattern.access])
    (.all [.wordChars, .opt (.all [.char '<', .many (Pattern.noneOf "<>"), .char '>']), .word "()", Pattern.access])

-- Types in angle brackets, with no further ones inside.
theorem reads_types_iff : (TypedResources.Pattern.all [.char '<', .many (Pattern.noneOf "<>"), .char '>'] : Pattern.P).Reads
    w kept ↔ (∃ types, w = '<' :: types ++ ['>'] ∧ ∀ c ∈ types, c ≠ '<' ∧ c ≠ '>') ∧ kept = [] := by
  simp only [Pattern.noneOf, reads_all_cons, reads_all_nil, reads_char_iff, reads_many_one_iff]
  constructor
  case mp =>
    rintro ⟨_, _, _, _, ⟨rfl, rfl⟩,
      ⟨types, _, _, _, ⟨ht, rfl⟩, ⟨_, _, _, _, ⟨rfl, rfl⟩, ⟨rfl, rfl⟩, rfl, rfl⟩, rfl, rfl⟩, rfl, rfl⟩
    exact ⟨⟨types, rfl, fun c hc => by simpa using ht c hc⟩, rfl⟩
  case mpr =>
    rintro ⟨⟨types, rfl, ht⟩, rfl⟩
    exact ⟨['<'], types ++ ['>'], [], [], ⟨rfl, rfl⟩, ⟨types, ['>'], [], [], ⟨fun c hc => by simpa using ht c hc, rfl⟩,
      ⟨['>'], [], [], [], ⟨rfl, rfl⟩, ⟨rfl, rfl⟩, rfl, rfl⟩, rfl, rfl⟩, rfl, rfl⟩

theorem reads_link_iff : link.Reads w kept ↔ Link w ∧ kept = [] := by
  constructor
  case mp =>
    rintro (h | h)
    all_goals obtain ⟨name, _, _, _, hn, ⟨m, _, _, _, hm, h, rfl, rfl⟩, rfl, rfl⟩ := h
    all_goals obtain ⟨⟨hne, hname⟩, rfl⟩ := reads_wordChars_iff.mp hn
    case inl =>
      obtain ⟨_, _, _, _, hacc, ⟨rfl, rfl⟩, rfl, rfl⟩ := h
      obtain ⟨ha, rfl⟩ := reads_access_iff.mp hacc
      rcases hm with ⟨_, x, _, _, hat, hl, rfl, rfl⟩ | ⟨rfl, rfl⟩
      case inl =>
        obtain ⟨rfl, rfl⟩ := reads_char_iff.mp hat
        obtain ⟨⟨hx, hxs⟩, rfl⟩ := reads_wordChars_iff.mp hl
        exact ⟨by simpa using Link.intro hne hname (.label hx hxs) ha, rfl⟩
      case inr => exact ⟨by simpa using Link.intro hne hname .none ha, rfl⟩
    case inr =>
      obtain ⟨_, _, _, _, hc, ⟨_, _, _, _, hacc, ⟨rfl, rfl⟩, rfl, rfl⟩, rfl, rfl⟩ := h
      obtain ⟨rfl, rfl⟩ := reads_word_iff.mp hc
      obtain ⟨ha, rfl⟩ := reads_access_iff.mp hacc
      rcases hm with hm | ⟨rfl, rfl⟩
      case inl =>
        obtain ⟨⟨types, rfl, ht⟩, rfl⟩ := reads_types_iff.mp hm
        exact ⟨by simpa using Link.intro hne hname (.typed ht) ha, rfl⟩
      case inr => exact ⟨by simpa using Link.intro hne hname .call ha, rfl⟩
  case mpr =>
    rintro ⟨@⟨name, middle, access, hne, hname, hm, ha⟩, rfl⟩
    have hn : (TypedResources.Pattern.wordChars : Pattern.P).Reads name [] := reads_wordChars_iff.mpr ⟨⟨hne, hname⟩, rfl⟩
    have ha : (TypedResources.Pattern.all [Pattern.access]).Reads access [] :=
      ⟨access, [], [], [], reads_access_iff.mpr ⟨ha, rfl⟩, ⟨rfl, rfl⟩, (List.append_nil _).symm, rfl⟩
    have hc : (TypedResources.Pattern.all [.word "()", Pattern.access]).Reads (['(', ')'] ++ access) [] :=
      reads_cons (reads_word_iff.mpr ⟨rfl, rfl⟩) ha
    cases hm
    case none           => exact .inl (reads_cons hn (reads_cons (reads_opt_iff.mpr (.inr ⟨rfl, rfl⟩)) ha))
    case label x hx hxs =>
      have hl : (TypedResources.Pattern.seq (.char '@') .wordChars : Pattern.P).Reads ('@' :: x) [] :=
        ⟨['@'], x, [], [], reads_char_iff.mpr ⟨rfl, rfl⟩, reads_wordChars_iff.mpr ⟨⟨hx, hxs⟩, rfl⟩, rfl, rfl⟩
      exact .inl (reads_cons hn (reads_cons (reads_opt_iff.mpr (.inl hl)) ha))
    case call           => exact .inr (reads_cons hn (reads_cons (reads_opt_iff.mpr (.inr ⟨rfl, rfl⟩)) hc))
    case typed types ht =>
      have h := reads_cons hn (reads_cons (reads_opt_iff.mpr (.inl (reads_types_iff.mpr ⟨⟨types, rfl, ht⟩, rfl⟩))) hc)
      exact .inr (by simpa using h)

theorem reads_receiver_iff : Pattern.receiver.Reads w kept ↔ Chain w ∧ kept = [] := by
  constructor
  case mp =>
    intro h
    rw [Pattern.receiver] at h
    induction h with
    | nil           => exact ⟨.nil, rfl⟩
    | cons hu _ ih =>
      obtain ⟨hl, rfl⟩ := reads_link_iff.mp hu
      obtain ⟨hc, rfl⟩ := ih
      exact ⟨.cons hl hc, rfl⟩
  case mpr =>
    rintro ⟨h, rfl⟩
    induction h with
    | nil           => exact .nil
    | cons hl _ ih => exact .cons (reads_link_iff.mpr ⟨hl, rfl⟩) ih

-- Links one after another.

theorem Access.exists_head (h : Access w) : ∃ c t, w = c :: t ∧ isWord c = false := by
  cases h <;> exact ⟨_, _, rfl, by decide⟩

theorem Access.eq (hu : Access u) (hv : Access v) (h : u ++ s = v ++ t) : u = v ∧ s = t := by
  cases hu <;> cases hv <;> simp_all

-- No name goes on behind the name of a link.
theorem Middle.exists_head (hm : Middle u) (ha : Access v) (s : List Char) :
    ∃ c t, u ++ (v ++ s) = c :: t ∧ isWord c = false := by
  cases hm
  case none =>
    obtain ⟨c, t, rfl, hc⟩ := ha.exists_head
    exact ⟨c, t ++ s, rfl, hc⟩
  all_goals exact ⟨_, _, rfl, by decide⟩

theorem Middle.eq {a b : List Char} (hu : Middle u) (hv : Middle v) (ha : Access a) (hb : Access b)
    (h : u ++ (a ++ s) = v ++ (b ++ t)) : u = v ∧ a ++ s = b ++ t := by
  cases hu <;> cases hv
  case none.none   => exact ⟨rfl, h⟩
  case label.label x _ hx y _ hy =>
    obtain ⟨c, z, hz, hc⟩ := Middle.none.exists_head ha s
    obtain ⟨d, z', hz', hd⟩ := Middle.none.exists_head hb t
    rw [List.nil_append] at hz hz'
    rw [List.cons_append, List.cons_append, hz, hz'] at h
    obtain ⟨rfl, rfl, rfl⟩ := Text.eq_of_stretch hx hy hc hd (List.cons.inj h).right
    exact ⟨rfl, hz.trans hz'.symm⟩
  case call.call   => exact ⟨rfl, by simpa using h⟩
  case typed.typed x hx y hy =>
    have hclass {types : List Char} (ht : ∀ c ∈ types, c ≠ '<' ∧ c ≠ '>') : ∀ c ∈ types, decide (c ≠ '>') :=
      fun c hc => decide_eq_true (ht c hc).right
    have h : x ++ '>' :: ('(' :: ')' :: (a ++ s)) = y ++ '>' :: ('(' :: ')' :: (b ++ t)) := by simpa using h
    obtain ⟨rfl, -, hrest⟩ := Text.eq_of_stretch (hclass hx) (hclass hy) (by decide) (by decide) h
    exact ⟨rfl, by simpa using hrest⟩
  -- Otherwise the texts begin with different characters.
  all_goals cases ha <;> cases hb <;> simp at h

theorem Link.eq (hl : Link l) (hl' : Link l') (h : l ++ s = l' ++ t) : l = l' ∧ s = t := by
  obtain ⟨hne, hname, hm, ha⟩ := hl
  obtain ⟨hne', hname', hm', ha'⟩ := hl'
  rw [List.append_assoc, List.append_assoc, List.append_assoc, List.append_assoc] at h
  obtain ⟨c, z, hz, hc⟩ := hm.exists_head ha s
  obtain ⟨d, z', hz', hd⟩ := hm'.exists_head ha' t
  rw [hz, hz'] at h
  obtain ⟨rfl, rfl, rfl⟩ := Text.eq_of_stretch hname hname' hc hd h
  obtain ⟨rfl, h⟩ := hm.eq hm' ha ha' (hz.trans hz'.symm)
  obtain ⟨rfl, rfl⟩ := ha.eq ha' h
  exact ⟨rfl, rfl⟩

-- What can follow the first name of a receiver: not the parenthesis of a call with arguments.
def Follows (w : List Char) : Prop :=
  ∃ c t, w = c :: t ∧ isWord c = false ∧ (c = '(' → t.head? = some ')')

-- What stands before a method is empty or begins with a name that is not the name of the method.
def Receives (w : List Char) : Prop :=
  w = [] ∨ ∃ name t, w = name ++ t ∧ (∀ c ∈ name, isWord c) ∧ Follows t

theorem Middle.follows (hm : Middle u) (ha : Access v) (s : List Char) : Follows (u ++ (v ++ s)) := by
  cases hm
  case none  => cases ha <;> exact ⟨_, _, rfl, by decide, nofun⟩
  case label => exact ⟨_, _, rfl, by decide, fun h => by cases h⟩
  case call  => exact ⟨_, _, rfl, by decide, fun _ => rfl⟩
  case typed => exact ⟨_, _, rfl, by decide, fun h => by cases h⟩

theorem Chain.receives (h : Chain w) : Receives w := by
  cases h
  case nil        => exact .inl rfl
  case cons w hl _ =>
    obtain @⟨name, middle, access, hne, hname, hm, ha⟩ := hl
    exact .inr ⟨name, middle ++ (access ++ w), by simp, hname, hm.follows ha w⟩

-- Nothing can stand before a method that a text begins with.
theorem receiver_eq_nil {method : List Char} (hm : ∀ c ∈ method, isWord c) (h : Receives w) (ht : t.head? ≠ some ')')
    (hs : w ++ (method ++ '(' :: s) <+: method ++ '(' :: t) : w = [] := by
  rcases h with rfl | ⟨name, _, rfl, hname, c, v, rfl, hc, hv⟩
  case inl => rfl
  case inr =>
    obtain ⟨x, hx⟩ := hs
    have hx : name ++ c :: (v ++ (method ++ '(' :: s) ++ x) = method ++ '(' :: t := by simpa using hx
    obtain ⟨-, rfl, rfl⟩ := Text.eq_of_stretch hname hm hc (by decide) hx
    rw [List.append_assoc, List.head?_append, hv rfl] at ht
    exact absurd rfl ht

theorem Link.ne_nil (h : Link l) : l ≠ [] := by
  obtain ⟨hne, -, -, -⟩ := h
  simp [hne]

-- A chain ends where a method begins, whose parenthesis is not closed at once.
theorem Chain.eq {method : List Char} (hm : ∀ c ∈ method, isWord c) (hu : Chain u) (hv : Chain v)
    (hs : s.head? ≠ some ')') (ht : t.head? ≠ some ')') (h : u ++ (method ++ '(' :: s) = v ++ (method ++ '(' :: t)) :
    u = v ∧ s = t := by
  induction hu generalizing v with
  | nil =>
    obtain rfl := receiver_eq_nil hm hv.receives hs ⟨[], by rw [List.append_nil]; exact h.symm⟩
    exact ⟨rfl, (List.cons.inj (List.append_cancel_left h)).right⟩
  | cons hl hw ih =>
    cases hv with
    | nil =>
      have hnil := receiver_eq_nil hm (Chain.cons hl hw).receives ht ⟨[], by rw [List.append_nil]; exact h⟩
      exact absurd (List.append_eq_nil_iff.mp hnil).left hl.ne_nil
    | cons hl' hw' =>
      rw [List.append_assoc, List.append_assoc] at h
      obtain ⟨rfl, hrest⟩ := hl.eq hl' h
      obtain ⟨rfl, hst⟩ := ih hw' hrest
      exact ⟨rfl, hst⟩

-- What a reference can stand behind.
def Introduces (c : Char) : Prop :=
  c = '(' ∨ c = ',' ∨ isBlank c

theorem Introduces.not_isWord (h : Introduces c) : isWord c = false := by
  rcases h with rfl | rfl | h
  · decide
  · decide
  · exact Text.not_isWord_of_isBlank h

theorem Introduces.ne (h : Introduces c) : c ≠ '.' ∧ c ≠ '@' ∧ c ≠ '?' ∧ c ≠ '!' ∧ c ≠ '<' ∧ c ≠ '>' ∧ c ≠ ')' := by
  rcases h with rfl | rfl | h
  · decide
  · decide
  · refine ⟨?_, ?_, ?_, ?_, ?_, ?_, ?_⟩ <;> (rintro rfl; exact absurd h (by decide))

theorem Introduces.notMem_access (h : Introduces c) (ha : Access w) : c ∉ w := by
  obtain ⟨hdot, -, hsafe, hsure, -⟩ := h.ne
  cases ha <;> simp [hdot, hsafe, hsure]

theorem Introduces.notMem_words (h : Introduces c) (hw : ∀ c ∈ w, isWord c) : c ∉ w :=
  fun hc => absurd (hw c hc) (by simp [h.not_isWord])

-- Behind the parenthesis of a call without arguments stands the one that closes it.
theorem Access.head?_of_introduces (ha : Access w) (hc : Introduces c) (h : '(' :: ')' :: w = s ++ c :: t) :
    t.head? = some ')' := by
  obtain ⟨-, -, -, -, -, -, hclose⟩ := hc.ne
  rcases s with _ | ⟨d, s⟩
  case nil  => cases h; rfl
  case cons =>
    have hnot : c ∉ ')' :: w := by simp [hclose, hc.notMem_access ha]
    exact absurd ((List.cons.inj h).right ▸ by simp) hnot

-- Such a character stands in a link among its types, unless a parenthesis follows it.
theorem Link.exists_types (hl : Link l) (hc : Introduces c) (ht : t.head? ≠ some ')') (h : l = s ++ c :: t) :
    ∃ name x y access, name ≠ [] ∧ (∀ c ∈ name, isWord c) ∧ Access access ∧ s = name ++ '<' :: x ∧
      t = y ++ '>' :: '(' :: ')' :: access ∧ ∀ d ∈ x ++ c :: y, d ≠ '<' ∧ d ≠ '>' := by
  obtain @⟨name, middle, access, hne, hname, hm, ha⟩ := hl
  obtain ⟨-, hat, -, -, hopen, hclose, -⟩ := hc.ne
  obtain ⟨v, rfl, hv⟩ := Text.exists_behind (hc.notMem_words hname) h
  cases hm with
  | none => exact absurd ((show access = _ from hv) ▸ List.mem_append_right v List.mem_cons_self) (hc.notMem_access ha)
  | @label x _ hx =>
    have hnot : c ∉ '@' :: x ++ access := by simp [hat, hc.notMem_words hx, hc.notMem_access ha]
    exact absurd (hv ▸ List.mem_append_right v List.mem_cons_self) hnot
  | call => exact absurd (ha.head?_of_introduces hc hv) ht
  | @typed types htypes =>
    have hv : ['<'] ++ (types ++ '>' :: ('(' :: ')' :: access)) = v ++ c :: t := by simpa using hv
    obtain ⟨x, rfl, hx⟩ := Text.exists_behind (by simpa using hopen) hv
    rcases Text.beside_of_notMem (r := [c]) (by simpa using hclose.symm) hx with ⟨y, rfl, rfl⟩ | ⟨y, rfl, hy⟩
    case inl => exact ⟨name, x, y, access, hne, hname, ha, rfl, rfl, by simpa using htypes⟩
    case inr => exact absurd (ha.head?_of_introduces hc hy) ht

-- Behind such a character another stretch of names can stand in front of a method.
theorem Chain.respelled {method : List Char} (hm : ∀ c ∈ method, isWord c) (hw : Chain w) (hc : Introduces c) (hr : Run r)
    (hr' : Run r') (h : w ++ method = s ++ c :: (r ++ t)) : ∃ v, Chain v ∧ v ++ method = s ++ c :: (r' ++ t) := by
  induction hw generalizing s with
  | nil            =>
    have hmem : c ∈ method := (show method = _ from h) ▸ List.mem_append_right s List.mem_cons_self
    exact absurd hmem (hc.notMem_words hm)
  | @cons l w hl hw ih =>
    -- The character stands behind the first link, or in it.
    rw [List.append_assoc] at h
    rcases List.append_eq_append_iff.mp h with ⟨x, hx, hrest⟩ | ⟨_ | ⟨d, x⟩, hx, hrest⟩
    case inl =>
      obtain ⟨v, hv, he⟩ := ih hrest
      exact ⟨l ++ v, .cons hl hv, by rw [List.append_assoc, he, hx, List.append_assoc]⟩
    case inr.nil =>
      obtain ⟨v, hv, he⟩ := ih (s := []) hrest.symm
      exact ⟨l ++ v, .cons hl hv, by rw [List.append_assoc, he, hx, List.append_nil, List.nil_append]⟩
    case inr.cons =>
      obtain ⟨rfl, htail⟩ := List.cons.inj hrest
      obtain ⟨d, u, rfl, hd⟩ := hr.head
      have hhead : x.head? ≠ some ')' := by
        intro hx
        obtain ⟨x, rfl⟩ := List.head?_eq_some_iff.mp hx
        exact absurd hd ((List.cons.inj htail).left ▸ by decide)
      obtain ⟨name, y, z, access, hne, hname, ha, rfl, rfl, htypes⟩ := hl.exists_types hc hhead hx
      have hz : z ++ '>' :: ('(' :: ')' :: (access ++ (w ++ method))) = [] ++ ((d :: u) ++ t) := by simpa using htail.symm
      rcases Text.beside_of_notMem (hr.notMem (by decide) (by decide)) hz with ⟨z, rfl, rfl⟩ | ⟨z, hz, -⟩
      case inr => simp at hz
      case inl =>
        have htypes' : ∀ e ∈ y ++ c :: (r' ++ z), e ≠ '<' ∧ e ≠ '>' := by
          intro e he
          by_cases hm : e ∈ r'
          case pos =>
            exact ⟨fun h => hr'.notMem (by decide) (by decide) (h ▸ hm),
              fun h => hr'.notMem (by decide) (by decide) (h ▸ hm)⟩
          case neg => exact htypes e (by simp [hm] at he ⊢; tauto)
        have hlink : Link (name ++ (('<' :: (y ++ c :: (r' ++ z)) ++ ['>', '(', ')']) ++ access)) :=
          .intro hne hname (.typed htypes') ha
        exact ⟨_, .cons hlink hw, by simp⟩

end TypedResources.Call
