import Mathlib.Data.List.TakeWhile
import TypedResources.ClassFile.Basic
import TypedResources.Proofs.Naming

-- What the text of a class has in it. Its objects and their accessors are laid out line by line
-- (`Outline.Shown`), and a reader that knows nothing of how the text was made finds exactly these in
-- it (`objectsIn_of_shown`), unless a name breaks its line or its brackets.

namespace TypedResources

namespace ClassFile

-- A function of the class, with the comment above it and what it looks up.
structure Accessor where
  comment? : Option String := none
  function : String
  lookup   : String
deriving DecidableEq

structure Object where
  name      : String
  accessors : List Accessor
deriving DecidableEq

-- The objects for the kinds of value, and behind them the one for drawables.
structure Outline where
  values    : List Object
  drawables : List Object
deriving DecidableEq

def Outline.objects (o : Outline) : List Object :=
  o.values ++ o.drawables

-- None of the characters is in the text.
def Free (cs : List Char) (s : String) : Prop :=
  ∀ c ∈ s.toList, c ∉ cs

instance (cs : List Char) (s : String) : Decidable (Free cs s) :=
  List.decidableBAll (· ∉ cs) s.toList

@[simp]
theorem free_append_iff {cs : List Char} {s t : String} : Free cs (s ++ t) ↔ Free cs s ∧ Free cs t := by
  simp only [Free, String.toList_append, List.forall_mem_append]

theorem Free.mono {cs cs' : List Char} {s : String} (h : Free cs s) (hc : cs' ⊆ cs) : Free cs' s :=
  fun c hm hm' => h c hm (hc hm')

variable {a : Accessor} {as : List Accessor} {object : Object} {objects : List Object} {o : Outline}
  {lines rest : List (List Char)} {line s t : List Char} {ls : List String} {package title text : String}
  {p : Char → Bool} {c : Char}

-- The lines of an accessor: the comment, and the function, whose body hands what is looked up to a call.
inductive Accessor.Shown (a : Accessor) : List String → Prop
  | intro {parameters returnType guard callee after : String}
      (hcomment : ∀ c ∈ a.comment?, "/**".toList <+: c.toList) (hparameters : Free ['\n', ')'] parameters)
      (hreturn : Free ['\n', '='] returnType) (hguard : guard = "" ∨ guard = "if (args.isEmpty()) ")
      (hcallee : Free ['\n', '(', ' '] callee) (hend : ∀ c ∈ after.toList.head?, c = ')' ∨ c = ',')
      (hafter : Free ['\n'] a.lookup → Free ['\n'] after) :
      a.Shown (a.comment?.toList.map ("        " ++ ·) ++
        ["        @JvmOverloads @JvmStatic fun " ++ a.function ++ "(" ++ parameters ++ "): " ++ returnType ++ " = " ++
          guard ++ callee ++ "(" ++ a.lookup ++ after])

inductive Object.Shown (object : Object) : List String → Prop
  | intro {ls : List (List String)} (h : List.Forall₂ Accessor.Shown object.accessors ls) :
      object.Shown (["", "    object " ++ object.name ++ " \x7b"] ++ ls.flatten ++ ["    \x7d"])

-- Objects below a title, which is left out where there are none.
inductive Titled (title : String) : List Object → List String → Prop
  | empty : Titled title [] []
  | below {objects : List Object} {ls : List (List String)} (hne : objects ≠ [])
      (h : List.Forall₂ Object.Shown objects ls) :
      Titled title objects (["", "    // ----- " ++ title ++ " -----"] ++ ls.flatten)

-- The text of the class for a package is laid out as the outline says.
inductive Outline.Shown (o : Outline) (package : String) : String → Prop
  | intro {values drawables : List String} (hvalues : Titled "VALUES" o.values values)
      (hdrawables : Titled "DRAWABLES" o.drawables drawables) :
      o.Shown package (unlines (header package ++ values ++ drawables ++ ["\x7d"]))

-- The object that a line begins.
def objectName? (line : List Char) : Option String := do
  let rest ← line.dropPrefix? "    object ".toList
  return String.ofList (← rest.dropSuffix? " \x7b".toList)

-- The first argument of the call in a body, which a condition may stand before.
def argument (body : List Char) : List Char :=
  let call := (body.dropPrefix? "= if (args.isEmpty())".toList).getD body
  ((call.dropWhile (· ≠ '(')).drop 1).takeWhile fun c => c ≠ ')' && c ≠ ','

-- The function that a line defines, with what its body looks up.
def accessor? (line : List Char) : Option Accessor := do
  let rest ← line.dropPrefix? "        @JvmOverloads @JvmStatic fun ".toList
  let body := ((rest.dropWhile (· ≠ '(')).dropWhile (· ≠ ')')).dropWhile (· ≠ '=')
  return { function := String.ofList (rest.takeWhile (· ≠ '(')), lookup := String.ofList (argument body) }

def comment? (line : List Char) : Option String := do
  let rest ← line.dropPrefix? "        ".toList
  guard ("/**".toList.isPrefixOf rest)
  return String.ofList rest

def closing : List Char := "    \x7d".toList

-- What is found by reading from the last line on: the accessors of the object that is still to begin, and
-- the objects behind it.
structure Found where
  accessors : List Accessor := []
  objects   : List Object   := []

def Found.add (line : List Char) (r : Found) : Found :=
  if line = closing then { objects := r.objects }
  else match objectName? line, accessor? line, comment? line, r.accessors with
    | some name, _, _, as           => { objects := ⟨name, as⟩ :: r.objects }
    | _, some a, _, as              => { r with accessors := a :: as }
    | _, _, some comment, a :: more => { r with accessors := { a with comment? := comment } :: more }
    | _, _, _, _                    => r

-- The objects that stand in a text.
def objectsIn (text : String) : List Object :=
  ((Text.splitAll (· = '\n') text.toList).foldr Found.add {}).objects

-- No name breaks its line, nor the brackets that it stands between.
structure Accessor.Plain (a : Accessor) : Prop where
  comment  : ∀ c ∈ a.comment?, Free ['\n'] c
  function : Free ['\n', '('] a.function
  lookup   : Free ['\n', ')', ','] a.lookup

structure Object.Plain (object : Object) : Prop where
  name      : Free ['\n'] object.name
  accessors : ∀ a ∈ object.accessors, a.Plain

instance : Decidable a.Plain :=
  decidable_of_iff ((∀ c ∈ a.comment?, Free ['\n'] c) ∧ Free ['\n', '('] a.function ∧ Free ['\n', ')', ','] a.lookup)
    ⟨fun h => ⟨h.1, h.2.1, h.2.2⟩, fun h => ⟨h.comment, h.function, h.lookup⟩⟩

instance : Decidable object.Plain :=
  decidable_of_iff (Free ['\n'] object.name ∧ ∀ a ∈ object.accessors, a.Plain)
    ⟨fun h => ⟨h.1, h.2⟩, fun h => ⟨h.name, h.accessors⟩⟩

theorem splitAll_unlines (h : ∀ l ∈ ls, Free ['\n'] l) :
    Text.splitAll (· = '\n') (unlines ls).toList = ls.map String.toList ++ [[]] := by
  induction ls
  case nil          => rw [unlines_nil]; rfl
  case cons l ls ih =>
    have ⟨hl, hls⟩ := List.forall_mem_cons.mp h
    have hl : ∀ c ∈ l.toList, decide (c = '\n') = false := fun c hc => by simpa using hl c hc
    rw [unlines_cons, String.toList_append, String.toList_append, show "\n".toList = ['\n'] from rfl,
      List.append_assoc, List.singleton_append, Text.splitAll_append_cons (by rfl), ih hls, Text.splitAll_of_none hl]
    rfl

theorem Free.not_mem {cs : List Char} {u : String} (h : Free cs u) (hc : c ∈ cs) : c ∉ u.toList :=
  fun hm => h c hm hc

theorem ne_of_not_mem {d : Char} (h : d ∉ s) : ∀ c ∈ s, decide (c ≠ d) :=
  fun _ hc => decide_eq_true fun he => h (he ▸ hc)

theorem takeWhile_stop (h : c ∉ s) : (s ++ c :: t).takeWhile (· ≠ c) = s := by
  rw [List.takeWhile_append_of_pos (ne_of_not_mem h), List.takeWhile_cons_of_neg (by simp), List.append_nil]

theorem dropWhile_stop (h : c ∉ s) : (s ++ c :: t).dropWhile (· ≠ c) = c :: t := by
  rw [List.dropWhile_append_of_pos (ne_of_not_mem h), List.dropWhile_cons_of_neg (by simp)]

-- A line that begins in another way.
theorem dropPrefix?_append_eq_none {u : List Char} (h : ¬u <+: s) (h' : ¬s <+: u) : (s ++ t).dropPrefix? u = none := by
  refine Option.eq_none_iff_forall_ne_some.mpr fun v hv => ?_
  obtain ⟨u', he, hu⟩ := List.dropPrefix?_eq_some_iff.mp hv
  have hu : u <+: s ++ t := eq_of_beq hu ▸ he ▸ List.prefix_append u' v
  exact (List.prefix_or_prefix_of_prefix hu (List.prefix_append s t)).elim h h'

-- Lines.

theorem objectName?_line (name : String) : objectName? ("    object " ++ name ++ " \x7b").toList = some name := by
  have hs : (name.toList ++ " \x7b".toList).dropSuffix? " \x7b".toList = some name.toList :=
    List.dropSuffix?_eq_some_iff.mpr ⟨_, rfl, beq_self_eq_true _⟩
  rw [objectName?, String.toList_append, String.toList_append, List.append_assoc,
    List.dropPrefix?_append_of_beq _ (beq_self_eq_true _), Option.bind_eq_bind, Option.bind_some, hs]
  simp

theorem objectName?_append_eq_none (h : ¬"    object ".toList <+: s) (h' : ¬s <+: "    object ".toList) :
    objectName? (s ++ t) = none := by
  rw [objectName?, dropPrefix?_append_eq_none h h']
  rfl

theorem comment?_line {comment : String} (h : "/**".toList <+: comment.toList) :
    comment? ("        " ++ comment).toList = some comment := by
  rw [comment?, String.toList_append, List.dropPrefix?_append_of_beq _ (beq_self_eq_true _), Option.bind_eq_bind,
    Option.bind_some, List.isPrefixOf_iff_prefix.mpr h]
  exact congrArg some String.ofList_toList

-- A call that no condition stands before.
theorem dropPrefix?_call {callee : String} (h : Free ['\n', '(', ' '] callee) :
    ("= ".toList ++ (callee.toList ++ '(' :: t)).dropPrefix? "= if (args.isEmpty())".toList = none := by
  refine Option.eq_none_iff_forall_ne_some.mpr fun v hv => ?_
  obtain ⟨u, he, hu⟩ := List.dropPrefix?_eq_some_iff.mp hv
  rw [eq_of_beq hu] at he
  have he : "= ".toList ++ (callee.toList ++ '(' :: t) =
      "= ".toList ++ ("if ".toList ++ '(' :: ("args.isEmpty())".toList ++ v)) := he
  have he := List.append_cancel_left he
  have ht := congrArg (List.takeWhile (· ≠ '(')) he
  rw [takeWhile_stop (h.not_mem (by simp)), takeWhile_stop (by decide)] at ht
  refine h.not_mem (by simp : ' ' ∈ _) ?_
  rw [ht]
  decide

theorem argument_body {guard callee lookup after : String} (hguard : guard = "" ∨ guard = "if (args.isEmpty()) ")
    (hcallee : Free ['\n', '(', ' '] callee) (hlookup : Free ['\n', ')', ','] lookup)
    (hend : ∀ c ∈ after.toList.head?, c = ')' ∨ c = ',') :
    argument ("= ".toList ++ (guard.toList ++ (callee.toList ++ '(' :: (lookup.toList ++ after.toList)))) =
      lookup.toList := by
  have htake : (lookup.toList ++ after.toList).takeWhile (fun c => c ≠ ')' && c ≠ ',') = lookup.toList := by
    have hl : ∀ c ∈ lookup.toList, (c ≠ ')' && c ≠ ',') := fun c hc => by
      have h := hlookup c hc
      simp only [List.mem_cons, not_or] at h
      simp [h]
    rw [List.takeWhile_append_of_pos hl]
    cases ha : after.toList
    case nil      => simp
    case cons c t =>
      rw [List.takeWhile_cons_of_neg, List.append_nil]
      have hc := hend c (by rw [ha]; rfl)
      rcases hc with rfl | rfl <;> decide
  have hcall {u : List Char} (hu : '(' ∉ u) :
      (((u ++ (callee.toList ++ '(' :: (lookup.toList ++ after.toList))).dropWhile (· ≠ '(')).drop 1).takeWhile
        (fun c => c ≠ ')' && c ≠ ',') = lookup.toList := by
    rw [← List.append_assoc, dropWhile_stop (by simpa [hu] using hcallee.not_mem (by simp))]
    exact htake
  unfold argument
  rcases hguard with rfl | rfl
  case inl =>
    rw [show "".toList = [] from rfl, List.nil_append, dropPrefix?_call hcallee, Option.getD_none]
    exact hcall (u := "= ".toList) (by decide)
  case inr =>
    have hs (t : List Char) : "= ".toList ++ ("if (args.isEmpty()) ".toList ++ t) =
      "= if (args.isEmpty())".toList ++ ([' '] ++ t) := rfl
    rw [hs, List.dropPrefix?_append_of_beq _ (beq_self_eq_true _), Option.getD_some]
    exact hcall (u := [' ']) (by decide)

-- What stands behind the signature of a function.
theorem body_line {function parameters returnType : String} (hfunction : Free ['\n', '('] function)
    (hparameters : Free ['\n', ')'] parameters) (hreturn : Free ['\n', '='] returnType) :
    (((function.toList ++ '(' :: (parameters.toList ++ ')' :: (": ".toList ++ (returnType.toList ++
      (' ' :: '=' :: t))))).dropWhile (· ≠ '(')).dropWhile (· ≠ ')')).dropWhile (· ≠ '=') = '=' :: t := by
  have hp : ')' ∉ '(' :: parameters.toList := by simpa using hparameters.not_mem (by simp)
  have hr : '=' ∉ ')' :: (": ".toList ++ (returnType.toList ++ [' '])) := by simpa using hreturn.not_mem (by simp)
  have ht : ')' :: (": ".toList ++ (returnType.toList ++ (' ' :: '=' :: t))) =
      ')' :: (": ".toList ++ (returnType.toList ++ [' '])) ++ '=' :: t := by simp
  rw [dropWhile_stop (hfunction.not_mem (by simp)), ← List.cons_append, dropWhile_stop hp, ht, dropWhile_stop hr]

theorem accessor?_line {function parameters returnType guard callee lookup after : String}
    (hfunction : Free ['\n', '('] function) (hparameters : Free ['\n', ')'] parameters)
    (hreturn : Free ['\n', '='] returnType) (hguard : guard = "" ∨ guard = "if (args.isEmpty()) ")
    (hcallee : Free ['\n', '(', ' '] callee) (hlookup : Free ['\n', ')', ','] lookup)
    (hend : ∀ c ∈ after.toList.head?, c = ')' ∨ c = ',') :
    accessor? ("        @JvmOverloads @JvmStatic fun " ++ function ++ "(" ++ parameters ++ "): " ++ returnType ++ " = " ++
      guard ++ callee ++ "(" ++ lookup ++ after).toList = some { function := function, lookup := lookup } := by
  have hline : ("        @JvmOverloads @JvmStatic fun " ++ function ++ "(" ++ parameters ++ "): " ++ returnType ++ " = " ++
      guard ++ callee ++ "(" ++ lookup ++ after).toList = "        @JvmOverloads @JvmStatic fun ".toList ++
        (function.toList ++ '(' :: (parameters.toList ++ ')' :: (": ".toList ++ (returnType.toList ++ (' ' :: '=' ::
          ' ' :: (guard.toList ++ (callee.toList ++ '(' :: (lookup.toList ++ after.toList)))))))) := by
    simp only [String.toList_append, List.append_assoc]
    rfl
  have hbody := argument_body hguard hcallee hlookup hend
  rw [accessor?, hline, List.dropPrefix?_append_of_beq _ (beq_self_eq_true _), Option.bind_eq_bind, Option.bind_some,
    body_line hfunction hparameters hreturn, takeWhile_stop (hfunction.not_mem (by simp))]
  dsimp only
  rw [show '=' :: ' ' :: (guard.toList ++ (callee.toList ++ '(' :: (lookup.toList ++ after.toList))) =
    "= ".toList ++ (guard.toList ++ (callee.toList ++ '(' :: (lookup.toList ++ after.toList))) from rfl, hbody]
  simp

variable {r : Found}

-- What a line says.

theorem add_object {name : String} (h : objectName? line = some name) :
    r.add line = { objects := ⟨name, r.accessors⟩ :: r.objects } := by
  have hc : line ≠ closing := by rintro rfl; cases h
  simp [Found.add, hc, h]

theorem add_accessor (ho : objectName? line = none) (h : accessor? line = some a) :
    r.add line = { r with accessors := a :: r.accessors } := by
  have hc : line ≠ closing := by rintro rfl; cases h
  simp [Found.add, hc, ho, h]

theorem add_comment {comment : String} (ho : objectName? line = none) (ha : accessor? line = none)
    (h : comment? line = some comment) (hr : r.accessors = a :: as) :
    r.add line = { r with accessors := { a with comment? := comment } :: as } := by
  have hc : line ≠ closing := by rintro rfl; cases h
  simp [Found.add, hc, ho, ha, h, hr]

-- Only the line that begins it makes an object.
theorem objects_add (h : objectName? line = none) : (r.add line).objects = r.objects := by
  unfold Found.add
  split
  case isTrue  => rfl
  case isFalse =>
    split
    case h_1 ho => cases h.symm.trans ho
    all_goals rfl

theorem objects_foldr_add (h : ∀ line ∈ lines, objectName? line = none) :
    (lines.foldr Found.add r).objects = r.objects := by
  induction lines
  case nil               => rfl
  case cons line lines ih =>
    have ⟨hl, hls⟩ := List.forall_mem_cons.mp h
    rw [List.foldr_cons, objects_add hl, ih hls]

theorem Accessor.Shown.foldr_add (h : a.Shown ls) (hp : a.Plain) :
    (ls.map String.toList).foldr Found.add r = { r with accessors := a :: r.accessors } := by
  obtain ⟨comment?, function, lookup⟩ := a
  obtain ⟨hcomment, hparameters, hreturn, hguard, hcallee, hend, -⟩ := h
  have ha := accessor?_line hp.function hparameters hreturn hguard hcallee hp.lookup hend
  have ho {s : String} : objectName? ("        @JvmOverloads @JvmStatic fun " ++ s).toList = none := by
    rw [String.toList_append]
    exact objectName?_append_eq_none (by decide) (by decide)
  simp only [String.append_assoc] at ha
  simp only [String.append_assoc, List.map_append, List.foldr_append, List.map_cons, List.map_nil, List.foldr_cons,
    List.foldr_nil, add_accessor ho ha]
  cases comment?
  case none         => rfl
  case some comment =>
    have hc := hcomment comment rfl
    have hn : accessor? ("        " ++ comment).toList = none := by
      obtain ⟨t, ht⟩ := hc
      rw [String.toList_append, ← ht, ← List.append_assoc, accessor?, dropPrefix?_append_eq_none (by decide) (by decide)]
      rfl
    have ho : objectName? ("        " ++ comment).toList = none := by
      rw [String.toList_append]
      exact objectName?_append_eq_none (by decide) (by decide)
    change Found.add ("        " ++ comment).toList { r with accessors := ⟨none, function, lookup⟩ :: r.accessors } = _
    exact add_comment (a := ⟨_, _, _⟩) ho hn (comment?_line hc) rfl

theorem foldr_add_accessors {ls : List (List String)} (h : List.Forall₂ Accessor.Shown as ls) (hp : ∀ a ∈ as, a.Plain) :
    (ls.flatten.map String.toList).foldr Found.add r = { r with accessors := as ++ r.accessors } := by
  induction h
  case nil            => rfl
  case cons a l as ls ha _ ih =>
    have ⟨hpa, hpas⟩ := List.forall_mem_cons.mp hp
    rw [List.flatten_cons, List.map_append, List.foldr_append, ih hpas, ha.foldr_add hpa]
    rfl

theorem Object.Shown.objects_foldr_add (h : object.Shown ls) (hp : object.Plain) :
    ((ls.map String.toList).foldr Found.add r).objects = object :: r.objects := by
  obtain ⟨name, as⟩ := object
  obtain ⟨h⟩ := h
  have hc : Found.add closing r = { objects := r.objects } := by simp [Found.add]
  have hm : ["    \x7d"].map String.toList = [closing] := rfl
  rw [List.map_append, List.map_append, List.foldr_append, List.foldr_append, hm, List.foldr_cons, List.foldr_nil, hc,
    foldr_add_accessors h hp.accessors]
  simp only [List.map_cons, List.map_nil, List.foldr_cons, List.foldr_nil]
  rw [add_object (objectName?_line name), objects_add (by decide)]
  simp

theorem objects_foldr_add_objects {ls : List (List String)} (h : List.Forall₂ Object.Shown objects ls)
    (hp : ∀ object ∈ objects, object.Plain) :
    ((ls.flatten.map String.toList).foldr Found.add r).objects = objects ++ r.objects := by
  induction h
  case nil                => rfl
  case cons o l os ls ho _ ih =>
    have ⟨hpo, hpos⟩ := List.forall_mem_cons.mp hp
    rw [List.flatten_cons, List.map_append, List.foldr_append, ho.objects_foldr_add hpo, ih hpos, List.cons_append]

theorem Titled.objects_foldr_add (h : Titled title objects ls) (hp : ∀ object ∈ objects, object.Plain) :
    ((ls.map String.toList).foldr Found.add r).objects = objects ++ r.objects := by
  cases h
  case empty        => rfl
  case below ls _ h =>
    have ht : objectName? ("    // ----- " ++ title ++ " -----").toList = none := by
      rw [String.append_assoc, String.toList_append]
      exact objectName?_append_eq_none (by decide) (by decide)
    rw [List.map_append, List.foldr_append, ClassFile.objects_foldr_add, objects_foldr_add_objects h hp]
    exact List.forall_mem_cons.mpr ⟨by decide, List.forall_mem_singleton.mpr ht⟩

theorem objectName?_header : ∀ line ∈ (header package).map String.toList, objectName? line = none := by
  have hpackage : objectName? ("package " ++ package).toList = none := by
    rw [String.toList_append]
    exact objectName?_append_eq_none (by decide) (by decide)
  have himport : objectName? ("import " ++ package ++ ".R").toList = none := by
    rw [String.append_assoc, String.toList_append]
    exact objectName?_append_eq_none (by decide) (by decide)
  simp only [header, List.map_cons, List.map_nil, List.forall_mem_cons, hpackage, himport]
  decide +kernel

theorem Accessor.Shown.free (h : a.Shown ls) (hp : a.Plain) : ∀ l ∈ ls, Free ['\n'] l := by
  obtain ⟨-, hparameters, hreturn, hguard, hcallee, -, hafter⟩ := h
  have hlookup : Free ['\n'] a.lookup := hp.lookup.mono (by simp)
  have hg : ∀ g, g = "" ∨ g = "if (args.isEmpty()) " → Free ['\n'] g := by
    rintro g (rfl | rfl) <;> decide
  refine List.forall_mem_append.mpr ⟨fun l hl => ?_, List.forall_mem_singleton.mpr ?_⟩
  case refine_1 =>
    obtain ⟨c, hc, rfl⟩ := List.mem_map.mp hl
    exact free_append_iff.mpr ⟨by decide, hp.comment c (Option.mem_toList.mp hc)⟩
  case refine_2 =>
    simp only [free_append_iff]
    exact ⟨⟨⟨⟨⟨⟨⟨⟨⟨⟨⟨by decide, hp.function.mono (by simp)⟩, by decide⟩, hparameters.mono (by simp)⟩, by decide⟩,
      hreturn.mono (by simp)⟩, by decide⟩, hg _ hguard⟩, hcallee.mono (by simp)⟩, by decide⟩, hlookup⟩, hafter hlookup⟩

-- What holds of all lines of the parts holds of all lines.
theorem forall_mem_flatten {α : Type} {P : α → List String → Prop} {Q : α → Prop} {φ : String → Prop} {l : List α}
    {ls : List (List String)} (h : List.Forall₂ P l ls) (hq : ∀ a ∈ l, Q a)
    (hφ : ∀ a ls, P a ls → Q a → ∀ line ∈ ls, φ line) : ∀ line ∈ ls.flatten, φ line := by
  induction h
  case nil              => simp
  case cons a ls _ _ ha _ ih =>
    have ⟨hqa, hqs⟩ := List.forall_mem_cons.mp hq
    rw [List.flatten_cons]
    exact List.forall_mem_append.mpr ⟨hφ a ls ha hqa, ih hqs⟩

theorem Object.Shown.free (h : object.Shown ls) (hp : object.Plain) : ∀ l ∈ ls, Free ['\n'] l := by
  obtain ⟨h⟩ := h
  have hname := hp.name
  have ha := forall_mem_flatten h hp.accessors fun _ _ => Accessor.Shown.free
  simp only [List.forall_mem_append, List.forall_mem_cons, free_append_iff]
  exact ⟨⟨⟨by decide, ⟨⟨by decide, hname⟩, by decide⟩, by simp⟩, ha⟩, by decide, by simp⟩

theorem Titled.free (h : Titled title objects ls) (ht : Free ['\n'] title) (hp : ∀ object ∈ objects, object.Plain) :
    ∀ l ∈ ls, Free ['\n'] l := by
  cases h
  case empty      => simp
  case below h =>
    have ho := forall_mem_flatten h hp fun _ _ => Object.Shown.free
    simp only [List.forall_mem_append, List.forall_mem_cons, free_append_iff]
    exact ⟨⟨by decide, ⟨⟨by decide, ht⟩, by decide⟩, by simp⟩, ho⟩

-- No line of the beginning is broken, nor has it a carriage return.
theorem free_header (hc : c = '\n' ∨ c = '\r') (h : Free [c] package) : ∀ l ∈ header package, Free [c] l := by
  simp only [header, List.forall_mem_cons, free_append_iff, h]
  rcases hc with rfl | rfl <;> decide +kernel

-- A reader finds the objects of a class in its text.
theorem objectsIn_of_shown (h : o.Shown package text) (hpackage : Free ['\n'] package)
    (hp : ∀ object ∈ o.objects, object.Plain) : objectsIn text = o.objects := by
  obtain @⟨values, drawables, hvalues, hdrawables⟩ := h
  have ⟨hpv, hpd⟩ := List.forall_mem_append.mp hp
  have hlines : ∀ l ∈ header package ++ values ++ drawables ++ ["\x7d"], Free ['\n'] l := by
    simp only [List.forall_mem_append]
    exact ⟨⟨⟨free_header (.inl rfl) hpackage, hvalues.free (by decide) hpv⟩, hdrawables.free (by decide) hpd⟩, by decide⟩
  rw [objectsIn, splitAll_unlines hlines]
  simp only [List.map_append, List.foldr_append]
  rw [objects_foldr_add objectName?_header, hvalues.objects_foldr_add hpv, hdrawables.objects_foldr_add hpd,
    objects_foldr_add (by decide), objects_foldr_add (by decide), List.append_nil]
  rfl

-- The text is laid out as the outline says, and can be read back as far as no name breaks it.
structure Outline.Tells (o : Outline) (package text : String) : Prop where
  shown : o.Shown package text
  read  : Free ['\n'] package → (∀ object ∈ o.objects, object.Plain) → objectsIn text = o.objects

theorem Outline.Shown.tells (h : o.Shown package text) : o.Tells package text where
  shown := h
  read  := objectsIn_of_shown h

-- The accessors of the objects of a name.
def Outline.accessors (o : Outline) (name : String) : List Accessor :=
  (o.objects.filter (·.name = name)).flatMap (·.accessors)

def Outline.Has (o : Outline) (name function : String) : Prop :=
  ∃ a ∈ o.accessors name, a.function = function

-- What the first accessor of a function name looks up.
def Outline.lookup? (o : Outline) (name function : String) : Option String :=
  ((o.accessors name).find? (·.function = function)).map (·.lookup)

end ClassFile

end TypedResources
