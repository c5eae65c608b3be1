import Mathlib.Logic.Function.Iterate
import TypedResources.Proofs.Migration.Swaps
import TypedResources.Proofs.Migration.Table
import TypedResources.Proofs.Naming.Collision

-- How many runs a line takes. Every call that is replaced uses up the mention of its resource class, and
-- the call of an accessor mentions none but in its arguments (`mentions_new_lt`). So a line has no more
-- changes in all its runs than mentions (`mentions_migrateBody`), and after as many runs it is settled
-- (`settled_iterate`). In a source text with one mention on each line the first run leaves nothing to do.

namespace TypedResources.Migration

variable {k : Knowledge} {imported : Option String} {shape : Call.Shape} {body s t : List Char} {c : Call}
  {target : Target} {es : List Edit} {n m : Nat}

-- How often a text mentions a resource class, by an `R` with a dot behind it.
def mentions : List Char → Nat
  | []     => 0
  | c :: t => mentions t + if c = 'R' ∧ t.head? = some '.' then 1 else 0

-- Two texts put together have the mentions of both, and perhaps one more where they meet.
theorem mentions_append (s t : List Char) :
    mentions (s ++ t) = mentions s + mentions t + if s.getLast? = some 'R' ∧ t.head? = some '.' then 1 else 0 := by
  induction s
  case nil         => simp [mentions]
  case cons c s ih =>
    cases s
    case nil      => simp [mentions]
    case cons d s =>
      have hc : mentions (c :: d :: s) = mentions (d :: s) + if c = 'R' ∧ some d = some '.' then 1 else 0 := rfl
      rw [List.cons_append, mentions, ih, hc, List.getLast?_cons_cons, List.cons_append, List.head?_cons]
      omega

theorem add_mentions_le (s t : List Char) : mentions s + mentions t ≤ mentions (s ++ t) := by
  rw [mentions_append]
  omega

theorem mentions_append_of_head? (h : t.head? ≠ some '.') : mentions (s ++ t) = mentions s + mentions t := by
  rw [mentions_append, if_neg (fun hm => h hm.right), Nat.add_zero]

theorem mentions_append_of_getLast? (h : s.getLast? ≠ some 'R') : mentions (s ++ t) = mentions s + mentions t := by
  rw [mentions_append, if_neg (fun hm => h hm.left), Nat.add_zero]

theorem mentions_of_notMem (h : '.' ∉ s) : mentions s = 0 := by
  induction s
  case nil         => rfl
  case cons c s ih =>
    have hs : '.' ∉ s := fun hm => h (List.mem_cons_of_mem _ hm)
    rw [mentions, ih hs, if_neg fun hm => hs (List.mem_of_mem_head? hm.right)]

theorem dot_notMem_functionName (name : String) (m : ModuleId) : '.' ∉ (Naming.functionName name m).toList := by
  have hcamel (s : List Char) : '.' ∉ Naming.camelCase s := fun h =>
    absurd (Naming.not_isSeparator_camelCase '.' h) (by decide)
  rw [Naming.toList_functionName, List.mem_append]
  rintro (h | h)
  case inl => exact hcamel _ h
  case inr =>
    cases hm : m.isPrimary
    case true  => rw [Naming.moduleSuffix_eq_nil_iff.mpr hm] at h; cases h
    case false =>
      rw [Naming.moduleSuffix_of_dependency hm] at h
      exact (List.mem_cons.mp h).elim (by decide) (hcamel _)

theorem ends_of_call (target : Target) (arguments : String) :
    (target.call arguments).toList.head? = some 'R' ∧ (target.call arguments).toList.getLast? = some ')' := by
  have hcall : (target.call arguments).toList =
      accessorClass.toList ++ (("." ++ target.name ++ "(" ++ arguments).toList ++ [')']) := by
    simp [Target.call]
  constructor
  case left  => rw [hcall, List.head?_append_of_ne_nil _ (by decide)]; rfl
  case right => rw [hcall, ← List.append_assoc, List.getLast?_concat]

-- The call of an accessor mentions what its arguments mention.
theorem mentions_call (hf : '.' ∉ target.function.toList) (arguments : String) :
    mentions (target.call arguments).toList = mentions arguments.toList := by
  have hblock : ∀ b : Block, mentions (accessorClass ++ "." ++ b.name ++ ".").toList = 0 ∧
      (accessorClass ++ "." ++ b.name ++ ".").toList.getLast? = some '.' := by
    intro b
    cases b
    case drawables   => decide
    case values kind => cases kind <;> decide
  obtain ⟨hnone, hlast⟩ := hblock target.block
  have hcall : (target.call arguments).toList = (accessorClass ++ "." ++ target.block.name ++ ".").toList ++
      (target.function.toList ++ ('(' :: (arguments.toList ++ [')']))) := by
    simp [Target.call, Target.name]
  have hargs : mentions ('(' :: (arguments.toList ++ [')'])) = mentions arguments.toList := by
    rw [mentions, if_neg (fun h => absurd h.left (by decide)), mentions_append_of_head? (by decide)]
    rfl
  rw [hcall, mentions_append_of_getLast? (by rw [hlast]; decide), hnone, mentions_append_of_head? (by simp),
    mentions_of_notMem hf, hargs, Nat.zero_add, Nat.zero_add]

def Edit.isSwap : Edit → Bool
  | keep _ => false
  | swap .. => true

theorem head?_olds_of_news (h : (news es).head? = some '.') : (olds es).head? = some '.' := by
  cases es
  case nil       => cases h
  case cons e es =>
    cases e
    case keep     => exact h
    case swap c t =>
      have hhead := (ends_of_call t (String.ofList c.arguments)).left
      rw [news, List.flatMap_cons, Edit.new, List.head?_append, hhead] at h
      cases h

-- If every swap takes a mention away, so do all of them together: none comes up where they meet.
theorem mentions_news (h : ∀ c t, .swap c t ∈ es → mentions (Edit.swap c t).new < mentions (Edit.swap c t).old) :
    mentions (news es) + es.countP Edit.isSwap ≤ mentions (olds es) := by
  induction es
  case nil         => exact Nat.le_refl _
  case cons e es ih =>
    have ih := ih fun c t hm => h c t (List.mem_cons_of_mem _ hm)
    have hn : news (e :: es) = e.new ++ news es := rfl
    have ho : olds (e :: es) = e.old ++ olds es := rfl
    rw [hn, ho]
    cases e
    case keep x   =>
      have hcount : (Edit.keep x :: es).countP Edit.isSwap = es.countP Edit.isSwap := rfl
      have hmeet : (if x = 'R' ∧ (news es).head? = some '.' then 1 else 0) ≤
          if x = 'R' ∧ (olds es).head? = some '.' then 1 else 0 := by
        split
        case isTrue hx => rw [if_pos (hx.imp_right head?_olds_of_news)]
        case isFalse   => exact Nat.zero_le _
      rw [Edit.new, Edit.old, List.singleton_append, List.singleton_append, mentions, mentions, hcount]
      omega
    case swap c t =>
      have hswap := h c t List.mem_cons_self
      have hlast := (ends_of_call t (String.ofList c.arguments)).right
      have hcount : (Edit.swap c t :: es).countP Edit.isSwap = es.countP Edit.isSwap + 1 :=
        List.countP_cons_of_pos rfl
      have hle := add_mentions_le (Edit.swap c t).old (olds es)
      rw [mentions_append_of_getLast? (by rw [Edit.new, hlast]; decide), hcount]
      omega

-- The changes that are reported are the swaps.
theorem countP_edits : (edits k imported shape body).countP Edit.isSwap =
    ((migrateShape k imported n body shape).2.filterMap Event.change?).length := by
  have hpiece (piece : Piece Call.Slot) : (editsOf k imported shape piece).countP Edit.isSwap =
      ((migratePiece k imported n shape piece).2.filterMap Event.change?).length := by
    cases piece
    case plain => rfl
    case found o =>
      rw [editsOf, migratePiece, migrateCall]
      cases resolve k imported (Call.ofOccurrence shape o)
      case ok    => rfl
      case error => exact List.countP_eq_zero.mpr (by simp [Edit.isSwap])
  rw [edits, migrateShape]
  dsimp only
  induction shape.pattern.cut body
  case nil               => rfl
  case cons piece rest ih =>
    rw [List.flatMap_cons, List.countP_append, hpiece, ih, List.map_cons, List.flatMap_cons, List.filterMap_append,
      List.length_append]

variable {d : Disk} {groups : List ResourceGroup} (hk : k.Knows d groups)

include hk

theorem dot_notMem_function (hr : resolve k imported c = .ok target) : '.' ∉ target.function.toList := by
  obtain ⟨r, -, ht⟩ := hk.mem_targets_iff.mp (mem_of_resolve hr).1
  obtain ⟨-, rfl⟩ := Prod.mk.inj ht
  exact dot_notMem_functionName r.name r.owner

-- What replaces a call mentions fewer resource classes than the call.
theorem mentions_new_lt (hs : shape ∈ Call.shapes) (h : .swap c target ∈ edits k imported shape body) :
    mentions (Edit.swap c target).new < mentions (Edit.swap c target).old := by
  obtain ⟨l, r, hl⟩ := List.append_of_mem h
  obtain ⟨p, o, hswap⟩ := exists_swapped_of_edits hs hl
  have hnew : mentions (Edit.swap c target).new = mentions c.arguments := by
    rw [Edit.new, mentions_call (dot_notMem_function hk hswap.resolves), String.toList_ofList]
  have harguments : mentions c.arguments ≤ mentions p.arguments := by
    rw [hswap.arguments]
    have h := add_mentions_le (p.arguments.rdropWhile Text.isBlank) (p.arguments.rtakeWhile Text.isBlank)
    rw [List.rdropWhile_append_rtakeWhile] at h
    exact Nat.le_trans (Nat.le_add_right _ _) h
  have htext : c.text = (p.front shape ++ p.package) ++
      (('R' :: '.' :: (shape.tag.toList ++ '.' :: (p.field ++ p.gap))) ++ (p.arguments ++ (p.trail ++ [')']))) := by
    simp [hswap.text, Call.Parts.text, Call.Parts.lead, Call.Parts.reference, reference]
  have hreference (v : List Char) : 1 ≤ mentions ('R' :: '.' :: v) := by simp [mentions]
  calc mentions (Edit.swap c target).new
    _ ≤ mentions p.arguments := hnew ▸ harguments
    _ < 1 + mentions p.arguments := by omega
    _ ≤ mentions ('R' :: '.' :: (shape.tag.toList ++ '.' :: (p.field ++ p.gap))) +
          mentions (p.arguments ++ (p.trail ++ [')'])) :=
      Nat.add_le_add (hreference _) (Nat.le_trans (Nat.le_add_right _ _) (add_mentions_le _ _))
    _ ≤ mentions c.text := by
      rw [htext]
      exact Nat.le_trans (add_mentions_le _ _) (Nat.le_trans (Nat.le_add_left _ _) (add_mentions_le _ _))

theorem mentions_migrateShape (imported : Option String) (n : Nat) (body : List Char) (hs : shape ∈ Call.shapes) :
    mentions (migrateShape k imported n body shape).1 +
      ((migrateShape k imported n body shape).2.filterMap Event.change?).length ≤ mentions body := by
  have h : mentions (news (edits k imported shape body)) + (edits k imported shape body).countP Edit.isSwap ≤
      mentions (olds (edits k imported shape body)) :=
    mentions_news fun _ _ hm => mentions_new_lt hk hs hm
  rwa [news_edits n, countP_edits, olds_edits] at h

-- A run leaves as many mentions fewer as it has changes, or fewer still.
theorem mentions_migrateBody (imported : Option String) (n : Nat) (body : List Char) :
    mentions (migrateBody k imported n body).1 +
      ((migrateBody k imported n body).2.filterMap Event.change?).length ≤ mentions body := by
  have go (shapes : List Call.Shape) (hs : ∀ shape ∈ shapes, shape ∈ Call.shapes) (body : List Char)
      (events : List Event) :
      mentions (migrateShapes k imported n shapes body events).1 +
        ((migrateShapes k imported n shapes body events).2.filterMap Event.change?).length ≤
      mentions body + (events.filterMap Event.change?).length := by
    induction shapes generalizing body events
    case nil                  => exact Nat.le_refl _
    case cons shape shapes ih =>
      have ⟨hshape, hs⟩ := List.forall_mem_cons.mp hs
      have h := mentions_migrateShape hk imported n body hshape
      have ih := ih hs (migrateShape k imported n body shape).1 (events ++ (migrateShape k imported n body shape).2)
      rw [List.filterMap_append, List.length_append] at ih
      rw [migrateShapes_cons]
      omega
  exact go Call.shapes (fun _ hs => hs) body []

theorem settled_or_mentions_lt (imported : Option String) (n : Nat) (body : List Char) :
    Settled k imported body ∨ mentions (migrateBody k imported n body).1 < mentions body := by
  have h := mentions_migrateBody hk imported n body
  by_cases hc : (migrateBody k imported n body).2.filterMap Event.change? = []
  case pos => exact .inl (migrateBody_settled_iff.mp (List.filterMap_eq_nil_iff.mp hc))
  case neg =>
    have := List.length_pos_iff.mpr hc
    exact .inr (by omega)

-- What one run makes of a line.
def runLine (k : Knowledge) (imported : Option String) (n : Nat) (body : List Char) : List Char :=
  (migrateBody k imported n body).1

-- After as many runs as it has mentions, a line is settled. A line with one mention is settled by the first.
theorem settled_iterate (n : Nat) (h : mentions body ≤ m) : Settled k imported ((runLine k imported n)^[m] body) := by
  induction m generalizing body
  case zero      => exact (settled_or_mentions_lt hk imported n body).resolve_right (by omega)
  case succ m ih =>
    rcases settled_or_mentions_lt hk imported n body with hs | hlt
    case inl =>
      have hfixed : runLine k imported n body = body := text_migrateBody hs
      rwa [Function.iterate_fixed hfixed]
    case inr =>
      rw [Function.iterate_succ_apply]
      exact ih (Nat.le_of_lt_succ (Nat.lt_of_lt_of_le hlt h))

end TypedResources.Migration
