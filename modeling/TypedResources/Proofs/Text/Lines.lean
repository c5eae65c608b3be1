import Mathlib.Data.List.TakeWhile
import TypedResources.Text.Lines

-- How texts fall into lines. A line has an end behind it at most (`shaped_splitLines`), and all lines
-- but the last one have one (`ended_of_splitLines`). A stretch without ends is the body of a line if it
-- stands behind an end and before a line feed or a carriage return (`hasLine_append`).

namespace TypedResources.Text

variable {s t u v body : List Char} {line : List Char} {c : Char}

-- A text that lies within one line.
def OneLine (s : List Char) : Prop :=
  ∀ c ∈ s, isLineEnd c = false

instance (s : List Char) : Decidable (OneLine s) :=
  decidable_of_iff (s.all (!isLineEnd ·)) (by simp [OneLine])

-- The text is empty or its last line is ended.
def Ended (s : List Char) : Prop :=
  ∀ c ∈ s.getLast?, isLineEnd c

-- A line of the text has this body.
def HasLine (body text : List Char) : Prop :=
  ∃ line ∈ splitLines text, (Line.ofList line).body = body

theorem splitLines_cons_of_not_end (hc : isLineEnd c = false) :
    splitLines (c :: t) = (c :: (splitLines t).headD []) :: (splitLines t).tail := by
  rw [splitLines.eq_def]
  split
  case h_1 => contradiction
  case h_2 => simp_all [isLineEnd]
  case h_3 h =>
    cases h
    rw [hc]
    cases splitLines t <;> rfl

theorem splitLines_pair : splitLines ('\r' :: '\n' :: t) = ['\r', '\n'] :: splitLines t :=
  rfl

theorem splitLines_eq_nil_iff : splitLines s = [] ↔ s = [] := by
  constructor
  case mp  => intro h; rw [← flatten_splitLines s, h]; rfl
  case mpr => rintro rfl; rfl

-- A text without ends goes to the front of the first line behind it.
theorem splitLines_oneLine_append (hu : OneLine u) (hne : u ≠ []) :
    splitLines (u ++ v) = (u ++ (splitLines v).headD []) :: (splitLines v).tail := by
  induction u
  case nil         => exact absurd rfl hne
  case cons c u ih =>
    have ⟨hc, hu⟩ := List.forall_mem_cons.mp hu
    rw [List.cons_append, splitLines_cons_of_not_end hc]
    by_cases hn : u = []
    case pos => rw [hn]; rfl
    case neg => rw [ih hu hn]; rfl

theorem splitLines_cons_of_end (hc : isLineEnd c) (ht : c = '\r' → t.head? ≠ some '\n') :
    splitLines (c :: t) = [c] :: splitLines t := by
  rw [splitLines.eq_def]
  split
  case h_1 => contradiction
  case h_2 => simp_all
  case h_3 h => cases h; rw [if_pos hc]

theorem Ended.tail (h : Ended (c :: s)) : Ended s := by
  intro x hx
  exact h x (by rw [List.getLast?_cons, Option.mem_def.mp hx]; rfl)

-- Behind an end a new line begins, but a carriage return and a line feed are one end.
theorem splitLines_append (hs : Ended s) (ht : t.head? ≠ some '\n') :
    splitLines (s ++ t) = splitLines s ++ splitLines t := by
  fun_induction splitLines s
  case case1 => rfl
  case case2 s ih =>
    rw [List.cons_append, List.cons_append, splitLines_pair, ih hs.tail.tail]
    rfl
  case case3 c s hr hc ih =>
    have hst : c = '\r' → (s ++ t).head? ≠ some '\n' := by
      rintro rfl
      cases s
      case nil      => exact ht
      case cons x s =>
        intro h
        cases h
        exact hr s rfl rfl
    rw [List.cons_append, splitLines_cons_of_end hc hst, ih hs.tail]
    rfl
  case case4 c s _ hc hn ih =>
    rw [splitLines_eq_nil_iff.mp hn] at hs
    exact absurd (hs c rfl) hc
  case case5 c s _ hc line ls hl ih =>
    rw [List.cons_append, splitLines_cons_of_not_end (by simpa using hc), ih hs.tail, hl]
    rfl

-- A line has an end behind it at most.
inductive Shaped : List Char → Prop
  | unended {u : List Char} (h : OneLine u) : Shaped u
  | ended {u : List Char} {c : Char} (h : OneLine u) (hc : isLineEnd c) : Shaped (u ++ [c])
  | paired {u : List Char} (h : OneLine u) : Shaped (u ++ ['\r', '\n'])

theorem Shaped.cons (h : Shaped line) (hc : isLineEnd c = false) : Shaped (c :: line) := by
  cases h
  case unended h  => exact .unended (List.forall_mem_cons.mpr ⟨hc, h⟩)
  case ended h he => exact .ended (List.forall_mem_cons.mpr ⟨hc, h⟩) he
  case paired h   => exact .paired (List.forall_mem_cons.mpr ⟨hc, h⟩)

theorem oneLine_nil : OneLine [] :=
  fun _ hc => absurd hc List.not_mem_nil

theorem shaped_splitLines (s : List Char) : ∀ line ∈ splitLines s, Shaped line := by
  fun_induction splitLines s
  case case1 => simp
  case case2 s ih => exact List.forall_mem_cons.mpr ⟨.paired oneLine_nil, ih⟩
  case case3 c s _ hc ih => exact List.forall_mem_cons.mpr ⟨.ended oneLine_nil hc, ih⟩
  case case4 c s _ hc _ ih =>
    intro line h
    cases List.mem_singleton.mp h
    exact (Shaped.unended oneLine_nil).cons (by simpa using hc)
  case case5 c s _ hc line ls hl ih =>
    rw [hl] at ih
    obtain ⟨h, hls⟩ := List.forall_mem_cons.mp ih
    exact List.forall_mem_cons.mpr ⟨h.cons (by simpa using hc), hls⟩

-- Where a line follows, an end stands before it.
theorem ended_of_splitLines {l r : List (List Char)} (h : splitLines s = l ++ line :: r) (hr : r ≠ []) :
    ∃ c ∈ line.getLast?, isLineEnd c := by
  fun_induction splitLines s generalizing l line
  case case1 => simp at h
  case case2 s ih =>
    cases l
    case nil      => obtain ⟨rfl, -⟩ := List.cons.inj h; exact ⟨'\n', rfl, rfl⟩
    case cons x l => exact ih (List.cons.inj h).right
  case case3 c s _ hc ih =>
    cases l
    case nil      => obtain ⟨rfl, -⟩ := List.cons.inj h; exact ⟨c, rfl, hc⟩
    case cons x l => exact ih (List.cons.inj h).right
  case case4 =>
    cases l
    case nil      => exact absurd (List.cons.inj h).right.symm hr
    case cons x l => simp at h
  case case5 c s _ hc first ls hl ih =>
    cases l
    case cons x l =>
      obtain ⟨-, hls⟩ := List.cons.inj h
      exact ih (l := first :: l) (by rw [hl, hls]; rfl)
    case nil      =>
      obtain ⟨rfl, rfl⟩ := List.cons.inj h
      obtain ⟨e, he, hc⟩ := ih (l := []) hl
      exact ⟨e, by rw [Option.mem_def, List.getLast?_cons, Option.mem_def.mp he]; rfl, hc⟩

def IsBreak (c : Char) : Prop :=
  c = '\r' ∨ c = '\n'

theorem isLineEnd_of_isBreak (h : IsBreak c) : isLineEnd c := by
  rcases h with rfl | rfl <;> rfl

-- A body that does not end in a break, with breaks behind it.
theorem ofList_append {e : List Char} (hb : ∀ c ∈ body.getLast?, ¬IsBreak c) (he : ∀ c ∈ e, IsBreak c) :
    Line.ofList (body ++ e) = ⟨body, e⟩ := by
  let isBreak : Char → Bool := fun c => c = '\r' || c = '\n'
  have he : ∀ c ∈ e.reverse, isBreak c := by simpa [isBreak, IsBreak] using he
  have hb : body.reverse.dropWhile isBreak = body.reverse ∧ body.reverse.takeWhile isBreak = [] := by
    rcases List.eq_nil_or_concat body with rfl | ⟨u, c, rfl⟩
    case inl => exact ⟨rfl, rfl⟩
    case inr =>
      have hc : ¬IsBreak c := hb c (by simp)
      have hc : isBreak c = false := by simpa [isBreak, IsBreak] using hc
      simp [hc]
  have hd : (e.reverse ++ body.reverse).dropWhile isBreak = body.reverse.dropWhile isBreak :=
    List.dropWhile_append_of_pos he
  have ht : (e.reverse ++ body.reverse).takeWhile isBreak = e.reverse ++ body.reverse.takeWhile isBreak :=
    List.takeWhile_append_of_pos he
  show (⟨_, _⟩ : Line) = _
  rw [List.reverse_append, hd, ht, hb.left, hb.right]
  simp

theorem isBreak_of_mem_ending (h : c ∈ (Line.ofList line).ending) : IsBreak c := by
  have h := List.mem_takeWhile_imp (List.mem_reverse.mp h)
  simpa [IsBreak] using h

theorem OneLine.not_isBreak (h : OneLine u) (hc : c ∈ u) : ¬IsBreak c := by
  intro hb
  have he := h c hc
  rw [isLineEnd_of_isBreak hb] at he
  contradiction

theorem OneLine.ofList_append {e : List Char} (h : OneLine u) (he : ∀ c ∈ e, IsBreak c) :
    Line.ofList (u ++ e) = ⟨u, e⟩ :=
  Text.ofList_append (fun _ hc => h.not_isBreak (List.mem_of_getLast? hc)) he

-- Only at its end a body can have one of the rarer ends.
theorem oneLine_dropLast_body (h : line ∈ splitLines s) : OneLine (Line.ofList line).body.dropLast := by
  cases shaped_splitLines s line h
  case unended hu =>
    have ho := hu.ofList_append (e := []) (by simp)
    rw [List.append_nil] at ho
    rw [ho]
    exact fun c hc => hu c ((List.dropLast_sublist _).subset hc)
  case ended u x hu hx =>
    by_cases hb : IsBreak x
    case pos =>
      rw [hu.ofList_append (by simpa using hb)]
      exact fun c hc => hu c ((List.dropLast_sublist _).subset hc)
    case neg =>
      have ho : Line.ofList (u ++ [x] ++ []) = ⟨u ++ [x], []⟩ := ofList_append (by simpa using hb) (by simp)
      rw [List.append_nil] at ho
      rw [ho, List.dropLast_concat]
      exact hu
  case paired u hu =>
    rw [hu.ofList_append (by simp [IsBreak])]
    exact fun c hc => hu c ((List.dropLast_sublist _).subset hc)

-- The line that begins with a break has nothing in it.
theorem isBreak_of_mem_headD (ht : ∀ c ∈ t.head?, IsBreak c) : ∀ c ∈ (splitLines t).headD [], IsBreak c := by
  fun_cases splitLines t
  case case1 => simp
  case case2 => simp [IsBreak]
  case case3 c _ _ _ => simpa using ht c rfl
  case case4 c _ _ hc _ => exact absurd (isLineEnd_of_isBreak (ht c rfl)) hc
  case case5 c _ _ hc _ _ _ => exact absurd (isLineEnd_of_isBreak (ht c rfl)) hc

theorem hasLine_append (hs : Ended s) (hb : OneLine body) (hne : body ≠ []) (ht : ∀ c ∈ t.head?, IsBreak c) :
    HasLine body (s ++ body ++ t) := by
  have hhead : (body ++ t).head? ≠ some '\n' := by
    cases body
    case nil         => exact absurd rfl hne
    case cons c body =>
      intro h
      cases h
      exact absurd (hb '\n' List.mem_cons_self) (by decide)
  refine ⟨body ++ (splitLines t).headD [], ?_, ?_⟩
  case refine_1 =>
    rw [List.append_assoc, splitLines_append hs hhead, splitLines_oneLine_append hb hne]
    exact List.mem_append_right _ List.mem_cons_self
  case refine_2 => rw [hb.ofList_append (isBreak_of_mem_headD ht)]

end TypedResources.Text
