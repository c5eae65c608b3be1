-- Patterns over texts. A pattern may fit a place in several ways, which are tried in a fixed order:
-- `ends` lists where it can end, best way first, and `run` looks for the first end from which what
-- follows succeeds as well. Main statement: `run` is that search (`run_eq_findSome?`).

namespace TypedResources

-- `ι` names the parts of a fit that are kept.
inductive Pattern (ι : Type)
  | empty
  | one (p : Char → Bool)
  | seq (a b : Pattern ι)
  -- The left side is preferred.
  | alt (a b : Pattern ι)
  -- Repetition, as often as possible or as seldom as possible.
  | many (a : Pattern ι)
  | manyLazy (a : Pattern ι)
  | keep (i : ι) (a : Pattern ι)
  -- The place is not right after a character of the class.
  | notAfter (p : Char → Bool)
  -- The class changes at this place, the ends of the text being outside of it.
  | border (p : Char → Bool)
  -- The end of the text, or the place before the line feed that ends it.
  | atEnd

-- A place in a text, and the parts kept on the way to it, the latest first.
structure Place (ι : Type) where
  before : Option Char
  rest   : List Char
  index  : Nat
  kept   : List (ι × List Char)

namespace Place

variable {ι : Type}

-- The text between two places, the second of which was reached from the first.
def upTo (s t : Place ι) : List Char :=
  s.rest.take (t.index - s.index)

end Place

namespace Pattern

variable {ι α : Type}

-- A step that does not advance is never repeated, so the text ahead has a character for each
-- repetition that is possible.
def iterate (greedy : Bool) (step : Place ι → List (Place ι)) :
    List Char → Place ι → List (Place ι)
  | [],         s => [s]
  | _ :: ahead, s =>
    let more := ((step s).filter fun t => s.index < t.index).flatMap (iterate greedy step ahead)
    if greedy then more ++ [s] else s :: more

def holdsAtEnd (s : Place ι) : Bool :=
  s.rest = [] || s.rest = ['\n']

def isBorder (p : Char → Bool) (s : Place ι) : Bool :=
  (s.before.map p).getD false != (s.rest.head?.map p).getD false

def isAfter (p : Char → Bool) (s : Place ι) : Bool :=
  (s.before.map p).getD false

def advance (p : Char → Bool) (s : Place ι) : Option (Place ι) :=
  match s.rest with
  | c :: t => if p c then some ⟨some c, t, s.index + 1, s.kept⟩ else none
  | []     => none

def keeping (i : ι) (s t : Place ι) : Place ι :=
  { t with kept := (i, s.upTo t) :: t.kept }

def ends : Pattern ι → Place ι → List (Place ι)
  | empty,      s => [s]
  | one p,      s => (advance p s).toList
  | seq a b,    s => (a.ends s).flatMap b.ends
  | alt a b,    s => a.ends s ++ b.ends s
  | many a,     s => iterate true a.ends s.rest s
  | manyLazy a, s => iterate false a.ends s.rest s
  | keep i a,   s => (a.ends s).map (keeping i s)
  | notAfter p, s => if isAfter p s then [] else [s]
  | border p,   s => if isBorder p s then [s] else []
  | atEnd,      s => if holdsAtEnd s then [s] else []

-- The search behind `iterate`, which visits an end only when it is asked for.
def iterateRun (greedy : Bool) (step : Place ι → (Place ι → Option α) → Option α) :
    List Char → Place ι → (Place ι → Option α) → Option α
  | [],         s, k => k s
  | _ :: ahead, s, k =>
    if greedy then
      (step s fun t => if s.index < t.index then iterateRun greedy step ahead t k else none) <|> k s
    else
      k s <|> step s fun t => if s.index < t.index then iterateRun greedy step ahead t k else none

-- The first answer of `k` at an end of the pattern.
def run : Pattern ι → Place ι → (Place ι → Option α) → Option α
  | empty,      s, k => k s
  | one p,      s, k => (advance p s).bind k
  | seq a b,    s, k => a.run s fun t => b.run t k
  | alt a b,    s, k => a.run s k <|> b.run s k
  | many a,     s, k => iterateRun true a.run s.rest s k
  | manyLazy a, s, k => iterateRun false a.run s.rest s k
  | keep i a,   s, k => a.run s fun t => k (keeping i s t)
  | notAfter p, s, k => if isAfter p s then none else k s
  | border p,   s, k => if isBorder p s then k s else none
  | atEnd,      s, k => if holdsAtEnd s then k s else none

theorem findSome?_flatMap {β γ : Type} (l : List β) (f : β → List γ) (k : γ → Option α) :
    (l.flatMap f).findSome? k = l.findSome? fun b => (f b).findSome? k := by
  induction l with
  | nil => rfl
  | cons b l ih =>
    simp only [List.flatMap_cons, List.findSome?_append, List.findSome?_cons, ih]
    cases (f b).findSome? k <;> rfl

theorem findSome?_filter {β : Type} (l : List β) (p : β → Bool) (k : β → Option α) :
    (l.filter p).findSome? k = l.findSome? fun b => if p b then k b else none := by
  induction l with
  | nil => rfl
  | cons b l ih =>
    by_cases h : p b <;> simp [List.findSome?_cons, h, ih]

theorem iterateRun_eq_findSome? {greedy : Bool} {step : Place ι → List (Place ι)}
    {stepRun : Place ι → (Place ι → Option α) → Option α}
    (h : ∀ s k, stepRun s k = (step s).findSome? k) (ahead : List Char) (s : Place ι)
    (k : Place ι → Option α) :
    iterateRun greedy stepRun ahead s k = (iterate greedy step ahead s).findSome? k := by
  induction ahead generalizing s with
  | nil => simp [iterateRun, iterate, List.findSome?_cons]; cases k s <;> rfl
  | cons _ ahead ih =>
    simp only [iterateRun, iterate, h, ih]
    split
    · simp [List.findSome?_append, findSome?_flatMap, findSome?_filter, List.findSome?_cons]
      cases k s <;> rfl
    · simp [List.findSome?_cons, findSome?_flatMap, findSome?_filter]
      cases k s <;> rfl

theorem run_eq_findSome? (p : Pattern ι) (s : Place ι) (k : Place ι → Option α) :
    p.run s k = (p.ends s).findSome? k := by
  induction p generalizing s k with
  | empty => simp [run, ends, List.findSome?_cons]; cases k s <;> rfl
  | one p => simp only [run, ends]; cases advance p s <;> simp [List.findSome?_cons]; cases k _ <;> rfl
  | seq a b iha ihb => simp [run, ends, iha, ihb, findSome?_flatMap]
  | alt a b iha ihb => simp [run, ends, iha, ihb, List.findSome?_append]
  | many a ih => exact iterateRun_eq_findSome? ih _ _ _
  | manyLazy a ih => exact iterateRun_eq_findSome? ih _ _ _
  | keep i a ih => simp [run, ends, ih, List.findSome?_map, Function.comp_def]
  | notAfter p => simp only [run, ends]; split <;> simp [List.findSome?_cons]; cases k s <;> rfl
  | border p => simp only [run, ends]; split <;> simp [List.findSome?_cons]; cases k s <;> rfl
  | atEnd => simp only [run, ends]; split <;> simp [List.findSome?_cons]; cases k s <;> rfl

end Pattern

end TypedResources
