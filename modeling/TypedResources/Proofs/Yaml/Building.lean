import TypedResources.Proofs.Yaml.Scanning

-- What working out the values of a document fails by. A document that is not malformed fails where its
-- text cannot be scanned, or at one of its nodes: the text of a scalar is no value of the tag that a node
-- has, or a moment is more than a text (`origin_of_ofText`).

namespace TypedResources.Yaml

variable {σ ε α β : Type} {I : σ → Prop} {P : ε → Prop} {Q : α → Prop} {R : β → Prop} {m : StateT σ (Except ε) α}
  {text : List Char} {fuel : Nat}

-- The state keeps a property, the result has one, and a fault has one.
def Keeps (I : σ → Prop) (P : ε → Prop) (Q : α → Prop) (m : StateT σ (Except ε) α) : Prop :=
  ∀ s, I s → Yields P (fun x => I x.2 ∧ Q x.1) (m.run s)

-- The same for a result of which nothing is to be known.
abbrev Preserves (I : σ → Prop) (P : ε → Prop) (m : StateT σ (Except ε) α) : Prop :=
  Keeps I P (fun _ => True) m

namespace Keeps

theorem pure {a : α} (h : Q a) : Keeps I P Q (pure a) :=
  fun _ hs => .ok ⟨hs, h⟩

theorem throw {e : ε} (h : P e) : Keeps I P Q (throw e) :=
  fun _ _ => .error h

theorem lift {r : Except ε α} (h : Yields P Q r) : Keeps I P Q (liftM r) :=
  fun _ hs => h.bind fun _ ha => .ok ⟨hs, ha⟩

theorem get : Keeps I P I get :=
  fun _ hs => .ok ⟨hs, hs⟩

theorem set {s : σ} (h : I s) : Preserves I P (set s) :=
  fun _ _ => .ok ⟨h, trivial⟩

theorem modify {f : σ → σ} (h : ∀ s, I s → I (f s)) : Preserves I P (modify f) :=
  fun s hs => .ok ⟨h s hs, trivial⟩

theorem bind {k : α → StateT σ (Except ε) β} (hm : Keeps I P Q m) (hk : ∀ a, Q a → Keeps I P R (k a)) :
    Keeps I P R (m >>= k) :=
  fun s hs => (hm s hs).bind fun (a, s) ⟨hs, ha⟩ => hk a ha s hs

theorem mono {Q' : α → Prop} (hm : Keeps I P Q m) (h : ∀ a, Q a → Q' a) : Keeps I P Q' m :=
  fun s hs => (hm s hs).mono fun _ ⟨hs, ha⟩ => ⟨hs, h _ ha⟩

-- Nothing happens behind a fault.
theorem throw_bind {e : ε} {k : β → StateT σ (Except ε) α} (h : P e) : Keeps I P Q (MonadExcept.throw e >>= k) :=
  fun _ _ => .error h

theorem guard {b : Prop} [Decidable b] {e : ε} {k : PUnit → StateT σ (Except ε) α} (he : P e) (hk : Keeps I P Q (k ⟨⟩)) :
    Keeps I P Q (if b then MonadExcept.throw e >>= k else k ⟨⟩) := by
  split
  case isTrue  => exact .throw_bind he
  case isFalse => exact hk

theorem ite {b : Prop} [Decidable b] {m' : StateT σ (Except ε) α} (h : b → Keeps I P Q m) (h' : ¬b → Keeps I P Q m') :
    Keeps I P Q (if b then m else m') := by
  split
  case isTrue hb  => exact h hb
  case isFalse hb => exact h' hb

end Keeps

namespace Preserves

variable {f : α → StateT σ (Except ε) β} {l : List α}

theorem mapM (hf : ∀ a ∈ l, Preserves I P (f a)) : Preserves I P (l.mapM f) := by
  induction l
  case nil         => exact .pure trivial
  case cons a l ih =>
    rw [List.mapM_cons]
    have ⟨ha, hl⟩ := List.forall_mem_cons.mp hf
    exact ha.bind fun _ _ => (ih hl).bind fun _ _ => .pure trivial

theorem forM {f : α → StateT σ (Except ε) PUnit} (hf : ∀ a ∈ l, Preserves I P (f a)) : Preserves I P (l.forM f) := by
  induction l
  case nil         => exact .pure trivial
  case cons a l ih =>
    have ⟨ha, hl⟩ := List.forall_mem_cons.mp hf
    exact ha.bind fun _ _ => ih hl

theorem forIn {f : α → PUnit → StateT σ (Except ε) (ForInStep PUnit)} (hf : ∀ a ∈ l, Preserves I P (f a ⟨⟩)) :
    Preserves I P (forIn l ⟨⟩ f) := by
  induction l
  case nil         => exact .pure trivial
  case cons a l ih =>
    rw [List.forIn_cons]
    have ⟨ha, hl⟩ := List.forall_mem_cons.mp hf
    refine ha.bind fun step _ => ?_
    cases step
    case done  => exact .pure trivial
    case yield => exact ih hl

theorem filterM {f : α → StateT σ (Except ε) Bool} (hf : ∀ a ∈ l, Preserves I P (f a)) : Preserves I P (l.filterM f) := by
  have hgo (kept : List α) : Preserves I P (l.filterAuxM f kept) := by
    induction l generalizing kept
    case nil         => exact .pure trivial
    case cons a l ih =>
      have ⟨ha, hl⟩ := List.forall_mem_cons.mp hf
      exact ha.bind fun _ _ => ih hl _
  exact (hgo []).bind fun _ _ => .pure trivial

end Preserves

namespace Compose

-- What is wrong behind the last token stands in the text.
def Sound (text : List Char) (c : Composer) : Prop :=
  Unscannable text c.fault

abbrev Composes (text : List Char) (m : Compose α) : Prop :=
  Preserves (Sound text) (Unscannable text) m

theorem composes_throw : Composes (α := α) text (throw .malformed) :=
  .throw .malformed

theorem composes_peek : Composes text peek := by
  refine Keeps.get.bind fun c _ => ?_
  split
  case h_1 => exact .pure trivial
  case h_2 => exact Keeps.get.bind fun c hc => .throw hc

theorem composes_skip : Composes text skip :=
  .modify fun _ hc => hc

theorem composes_skipIf (t : Token) : Composes text (skipIf t) := by
  refine composes_peek.bind fun _ _ => ?_
  split
  case isTrue  => exact composes_skip.bind fun _ _ => .pure trivial
  case isFalse => exact .pure trivial

theorem composes_expect (t : Token) : Composes text (expect t) := by
  refine (composes_skipIf t).bind fun _ _ => ?_
  split
  case isTrue  => exact composes_throw
  case isFalse => exact .pure trivial

theorem composes_addNode (anchor : Option (List Char)) (n : Node) : Composes text (addNode anchor n) := by
  refine Keeps.get.bind fun c hc => ?_
  refine .guard .malformed (Keeps.bind (Keeps.set ?_) fun _ _ => .pure trivial)
  exact hc

theorem composes_setContent (i : NodeId) (content : Content) : Composes text (setContent i content) :=
  .modify fun _ hc => hc

theorem composes_properties : Composes text properties := by
  have ha : Composes text properties.anchor? := by
    refine composes_peek.bind fun _ _ => ?_
    split
    case h_1 => exact composes_skip.bind fun _ _ => .pure trivial
    case h_2 => exact .pure trivial
  have ht : Composes text properties.tag? := by
    refine composes_peek.bind fun _ _ => ?_
    split
    case h_1 => exact composes_skip.bind fun _ _ => .pure trivial
    case h_2 => exact .pure trivial
  have hf (t : Option (List Char) × List Char) : Composes text (properties.fullTag t) := by
    unfold properties.fullTag
    split
    case h_1 => exact .pure trivial
    case h_2 =>
      refine Keeps.get.bind fun c _ => ?_
      split
      case h_1 => exact .pure trivial
      case h_2 => exact composes_throw
  refine ha.bind fun anchor _ => ht.bind fun tag _ => ?_
  have hm : Composes text (tag.mapM properties.fullTag) := by
    cases tag
    case none => exact .pure trivial
    case some => exact (hf _).bind fun _ _ => .pure trivial
  exact .ite (fun _ => ha.bind fun _ _ => hm.bind fun _ _ => .pure trivial) fun _ => hm.bind fun _ _ => .pure trivial

theorem composes_emptyNode : Composes text emptyNode :=
  composes_addNode none _

-- What reads nodes, with fuel to spare.
structure NodesCompose (text : List Char) (fuel : Nat) : Prop where
  node         : ∀ inBlock mayDash, Composes text (node inBlock mayDash fuel)
  nodeUnless   : ∀ stops inBlock mayDash, Composes text (nodeUnless stops inBlock mayDash fuel)
  blockItems   : Composes text (blockItems fuel)
  dashItems    : Composes text (dashItems fuel)
  blockEntries : Composes text (blockEntries fuel)
  flowEntry    : ∀ close, Composes text (flowEntry close fuel)
  flowItems    : ∀ isFirst, Composes text (flowItems isFirst fuel)
  flowEntries  : ∀ isFirst, Composes text (flowEntries isFirst fuel)

-- A collection is numbered before its parts are read.
theorem composes_collection {anchor : Option (List Char)} {n : Node} {parts : Compose α} {content : α → Content}
    (h : Composes text parts) : Composes text (do
      let i ← addNode anchor n
      setContent i (content (← parts))
      return i) :=
  (composes_addNode anchor n).bind fun _ _ => h.bind fun _ _ => (composes_setContent _ _).bind fun _ _ => .pure trivial

theorem composes_node_succ (h : NodesCompose text fuel) (inBlock mayDash : Bool) :
    Composes text (node inBlock mayDash (fuel + 1)) := by
  rw [node]
  refine composes_peek.bind fun t _ => ?_
  extract_lets rest
  have hrest : Composes text (rest ()) := by
    refine composes_properties.bind fun (anchor, tag) _ => ?_
    dsimp only
    refine composes_peek.bind fun t _ => ?_
    split
    case h_1 => exact composes_skip.bind fun _ _ => composes_addNode _ _
    case h_2 => exact composes_collection h.dashItems
    case h_3 => exact composes_collection (composes_skip.bind fun _ _ => h.flowItems true)
    case h_4 => exact composes_collection (composes_skip.bind fun _ _ => h.flowEntries true)
    case h_5 => exact composes_collection (composes_skip.bind fun _ _ => h.blockItems)
    case h_6 => exact composes_collection (composes_skip.bind fun _ _ => h.blockEntries)
    case h_7 => exact .ite (fun _ => composes_throw) fun _ => composes_addNode _ _
  split
  case h_2 => exact hrest
  case h_1 =>
    refine composes_skip.bind fun _ _ => Keeps.get.bind fun c _ => ?_
    split
    case h_1 => exact .pure trivial
    case h_2 => exact .throw_bind .malformed

theorem nodesCompose (fuel : Nat) : NodesCompose text fuel := by
  induction fuel
  case zero =>
    constructor <;> intros <;>
      simp only [node, nodeUnless, blockItems, dashItems, blockEntries, flowEntry, flowItems, flowEntries] <;>
      exact composes_throw
  case succ fuel ih =>
    constructor
    case node       => exact composes_node_succ ih
    case nodeUnless =>
      intro stops inBlock mayDash
      rw [nodeUnless]
      exact composes_peek.bind fun _ _ => .ite (fun _ => composes_emptyNode) fun _ => ih.node _ _
    case blockItems =>
      rw [blockItems]
      refine (composes_skipIf _).bind fun _ _ => .ite (fun _ => ?_) fun _ => ?_
      case refine_1 => exact (ih.nodeUnless _ _ _).bind fun _ _ => ih.blockItems.bind fun _ _ => .pure trivial
      case refine_2 => exact (composes_expect _).bind fun _ _ => .pure trivial
    case dashItems =>
      rw [dashItems]
      refine (composes_skipIf _).bind fun _ _ => .ite (fun _ => ?_) fun _ => .pure trivial
      exact (ih.nodeUnless _ _ _).bind fun _ _ => ih.dashItems.bind fun _ _ => .pure trivial
    case blockEntries =>
      rw [blockEntries]
      refine (composes_skipIf _).bind fun _ _ => .ite (fun _ => ?_) fun _ => ?_
      case refine_2 => exact (composes_expect _).bind fun _ _ => .pure trivial
      case refine_1 =>
        refine (ih.nodeUnless _ _ _).bind fun _ _ => (composes_skipIf _).bind fun _ _ => .ite (fun _ => ?_) fun _ => ?_
        case refine_1 => exact (ih.nodeUnless _ _ _).bind fun _ _ => ih.blockEntries.bind fun _ _ => .pure trivial
        case refine_2 => exact composes_emptyNode.bind fun _ _ => ih.blockEntries.bind fun _ _ => .pure trivial
    case flowEntry =>
      intro close
      rw [flowEntry]
      refine (ih.nodeUnless _ _ _).bind fun _ _ => (composes_skipIf _).bind fun _ _ => .ite (fun _ => ?_) fun _ => ?_
      case refine_1 => exact (ih.nodeUnless _ _ _).bind fun _ _ => .pure trivial
      case refine_2 => exact composes_emptyNode.bind fun _ _ => .pure trivial
    case flowItems =>
      intro isFirst
      rw [flowItems]
      refine (composes_skipIf _).bind fun _ _ => .ite (fun _ => .pure trivial) fun _ => ?_
      extract_lets rest
      have hrest : Composes text (rest ()) := by
        refine (composes_skipIf _).bind fun _ _ => .ite (fun _ => .pure trivial) fun _ => ?_
        refine (composes_skipIf _).bind fun _ _ => .ite (fun _ => ?_) fun _ => ?_
        case refine_1 =>
          refine (composes_addNode _ _).bind fun _ _ => (ih.flowEntry _).bind fun _ _ => ?_
          exact (composes_setContent _ _).bind fun _ _ => (ih.flowItems false).bind fun _ _ => .pure trivial
        case refine_2 => exact (ih.node _ _).bind fun _ _ => (ih.flowItems false).bind fun _ _ => .pure trivial
      exact .ite (fun _ => (composes_expect _).bind fun _ _ => hrest) fun _ => hrest
    case flowEntries =>
      intro isFirst
      rw [flowEntries]
      refine (composes_skipIf _).bind fun _ _ => .ite (fun _ => .pure trivial) fun _ => ?_
      extract_lets last rest
      have hrest : Composes text (rest ()) := by
        refine (composes_skipIf _).bind fun _ _ => .ite (fun _ => .pure trivial) fun _ => ?_
        refine (composes_skipIf _).bind fun _ _ => .ite (fun _ => ?_) fun _ => ?_
        case refine_1 => exact (ih.flowEntry _).bind fun _ _ => (ih.flowEntries false).bind fun _ _ => .pure trivial
        case refine_2 =>
          refine (ih.node _ _).bind fun _ _ => composes_emptyNode.bind fun _ _ => ?_
          exact (ih.flowEntries false).bind fun _ _ => .pure trivial
      exact .ite (fun _ => (composes_expect _).bind fun _ _ => hrest) fun _ => hrest

theorem composes_directives {hasVersion : Bool} {handles : List (List Char × List Char)} :
    Composes text (directives fuel hasVersion handles) := by
  induction fuel generalizing hasVersion handles
  case zero         => exact composes_throw
  case succ fuel ih =>
    rw [directives]
    refine composes_peek.bind fun t _ => ?_
    split
    case h_1 => exact composes_skip.bind fun _ _ => .guard .malformed ih
    case h_2 => exact composes_skip.bind fun _ _ => .guard .malformed ih
    case h_3 => exact composes_skip.bind fun _ _ => ih
    case h_4 => exact .pure trivial

theorem composes_setHandles (handles : List (List Char × List Char)) : Composes text (setHandles handles) :=
  .modify fun _ hc => hc

theorem composes_finish : Composes text (finish fuel) := by
  induction fuel
  case zero         => exact composes_throw
  case succ fuel ih =>
    rw [finish]
    refine (composes_skipIf _).bind fun _ _ => .ite (fun _ => ih) fun _ => composes_peek.bind fun _ _ => ?_
    exact .ite (fun _ => composes_throw) fun _ => .pure trivial

theorem composes_document : Composes text (document fuel) := by
  unfold document
  refine composes_peek.bind fun t _ => .ite (fun _ => .pure trivial) fun _ => ?_
  extract_lets rest
  have hrest (root : NodeId) : Composes text (rest root) := composes_finish.bind fun _ _ => .pure trivial
  have hnode := (nodesCompose fuel : NodesCompose text fuel).node true false
  refine .ite (fun _ => ?_) fun _ => (composes_setHandles _).bind fun _ _ => hnode.bind fun _ _ => hrest _
  refine composes_directives.bind fun _ _ => (composes_setHandles _).bind fun _ _ => (composes_expect _).bind fun _ _ => ?_
  refine composes_peek.bind fun t _ => .ite (fun _ => ?_) fun _ => hnode.bind fun _ _ => hrest _
  exact composes_emptyNode.bind fun _ _ => hrest _

end Compose

theorem yields_compose : Yields (Unscannable text) (fun _ => True) (compose text) := by
  have hc (tokens : List Token) (fault : Fault) (hf : Unscannable text fault) :
      Compose.Sound text ⟨tokens, fault, [], #[], []⟩ := hf
  have hf : Unscannable text ((tokens text).2.getD .malformed) := by
    cases h : (tokens text).2
    case none   => exact .malformed
    case some f => exact unscannable_of_tokens h
  unfold compose
  dsimp only
  exact (Compose.composes_document _ (hc _ _ hf)).bind fun _ _ => .ok trivial

-- Ways in which nodes have no values: they are malformed, the text of a scalar is none of the values
-- that the tag of a node calls for, or a moment is more than a text.
inductive Unbuildable (nodes : Nodes) : Fault → Prop
  | malformed : Unbuildable nodes .malformed
  | scalar {n n' : Node} {s : Text.Points} {f : Fault} (hn : n ∈ nodes) (hn' : n' ∈ nodes) (hs : n'.content = .scalar s)
      (hf : Scalar.value n.tag s = .error f) : Unbuildable nodes f
  | moment {n : Node} (hn : n ∈ nodes) (ht : n.tag = .timestamp) (hc : n.content.isScalar = false) :
      Unbuildable nodes (.calendar .noText)

-- What becomes of a node while mappings are merged.
structure Node.Stems (n n' : Node) : Prop where
  tag        : n'.tag = n.tag ∨ n'.tag = .string
  scalar     : ∀ s, n'.content = .scalar s → n.content = .scalar s
  collection : n'.content.isScalar = false → n.content.isScalar = false

def Builder.Stems (nodes : Nodes) (b : Builder) : Prop :=
  ∀ i, (nodes.get i).Stems (b.nodes.get i)

variable {nodes nodes' : Nodes} {n : Node} {i : NodeId}

theorem mem_of_get (h : nodes.get i ≠ ⟨.unknown, .sequence []⟩) : nodes.get i ∈ nodes := by
  unfold Nodes.get at h ⊢
  cases hi : nodes[i]?
  case none   => rw [hi] at h; exact absurd rfl h
  case some n => exact Array.mem_of_getElem? hi

theorem stems_modify (h : ∀ i, (nodes.get i).Stems (nodes'.get i)) (hn : (nodes.get i).Stems n) (j : NodeId) :
    (nodes.get j).Stems (Nodes.get (nodes'.modify i fun _ => n) j) := by
  have hj := h j
  unfold Nodes.get at hj ⊢
  rw [Array.getElem?_modify]
  split
  case isFalse => exact hj
  case isTrue hi =>
    subst hi
    cases hi : nodes'[i]?
    case none   => rw [hi] at hj; exact hj
    case some _ => exact hn

namespace Build

abbrev Builds (nodes : Nodes) (m : Build α) : Prop :=
  Preserves (Builder.Stems nodes) (Unbuildable nodes) m

theorem builds_throw : Builds (α := α) nodes (throw .malformed) :=
  .throw .malformed

theorem keeps_node (i : NodeId) : Keeps (Builder.Stems nodes) (Unbuildable nodes) ((nodes.get i).Stems ·) (node i) :=
  Keeps.get.bind fun _ hb => .pure (hb i)

theorem builds_setNode (hn : (nodes.get i).Stems n) : Builds nodes (setNode i n) :=
  .modify fun _ hb => stems_modify hb hn

theorem builds_setValue (i : NodeId) (v : Value) : Builds nodes (setValue i v) :=
  .modify fun _ hb => hb

theorem builds_value? (i : NodeId) : Builds nodes (value? i) :=
  Keeps.get.bind fun _ _ => .pure trivial

theorem keeps_entries? (i : NodeId) : Keeps (Builder.Stems nodes) (Unbuildable nodes)
    (fun _ => (nodes.get i).content.isScalar = false) (entries? i) := by
  refine (keeps_node i).bind fun n hn => ?_
  split
  case h_1 hc => exact .pure (hn.collection (by rw [hc]; rfl))
  case h_2    => exact .throw .malformed

theorem builds_items? (i : NodeId) : Builds nodes (items? i) := by
  refine (keeps_node i).bind fun n _ => ?_
  split
  case h_1 => exact .pure trivial
  case h_2 => exact builds_throw

theorem builds_flatten (fuel : Nat) (i : NodeId) : Builds nodes (flatten fuel i) := by
  induction fuel generalizing i
  case zero         => rw [flatten]; exact builds_throw
  case succ fuel ih =>
    have hflattened (v : NodeId) : Builds nodes (flatten.flattened fuel v) := by
      unfold flatten.flattened
      exact (keeps_entries? v).bind fun _ _ => (ih v).bind fun _ _ => (keeps_entries? v).mono fun _ _ => trivial
    rw [flatten]
    refine (keeps_entries? i).bind fun entries hi => ?_
    have hmapping (entries : List (NodeId × NodeId)) {n : Node} (hn : (nodes.get i).Stems n) :
        (nodes.get i).Stems { n with content := .mapping entries } :=
      ⟨hn.tag, by rintro _ ⟨⟩, fun _ => hi⟩
    refine (Preserves.mapM fun e _ => (keeps_node e.1).bind fun _ _ => .pure trivial).bind fun keyed _ => ?_
    refine (keeps_node i).bind fun n hn => (builds_setNode (hmapping _ hn)).bind fun _ _ => ?_
    refine (Preserves.forIn fun x _ => ?_).bind fun _ _ => ?_
    case refine_1 =>
      obtain ⟨tag, e⟩ := x
      refine .ite (fun _ => (keeps_node e.1).bind fun n hn => ?_) fun _ => .pure trivial
      exact Keeps.bind (builds_setNode ⟨.inr rfl, hn.scalar, hn.collection⟩) fun _ _ => .pure trivial
    case refine_2 =>
      refine (Preserves.mapM fun v _ => (keeps_node v).bind fun n _ => ?_).bind fun merged _ => ?_
      case refine_1 =>
        split
        case h_1 => exact (Preserves.mapM fun v _ => hflattened v).bind fun _ _ => .pure trivial
        case h_2 => exact hflattened v
      case refine_2 => exact (keeps_node i).bind fun n hn => builds_setNode (hmapping _ hn)

-- A text is found in a scalar.
theorem keeps_scalarText (fuel : Nat) (i : NodeId) : Keeps (Builder.Stems nodes) (Unbuildable nodes)
    (fun s => ∃ n ∈ nodes, n.content = .scalar s) (scalarText fuel i) := by
  induction fuel generalizing i
  case zero         => exact .throw .malformed
  case succ fuel ih =>
    rw [scalarText]
    refine (keeps_node i).bind fun n hn => ?_
    split
    case h_1 s hs =>
      have hc := hn.scalar s hs
      refine .pure ⟨nodes.get i, mem_of_get fun he => ?_, hc⟩
      rw [he] at hc
      cases hc
    case h_2 => exact .throw .malformed
    case h_3 =>
      refine (Preserves.filterM fun e _ => (keeps_node e.1).bind fun _ _ => .pure trivial).bind fun l _ => ?_
      split
      case h_1 => exact ih _
      case h_2 => exact .throw .malformed

theorem builds_wait (i : NodeId) (v : Value) : Builds nodes (wait i v) :=
  (builds_setValue i v).bind fun _ _ => .modify fun _ hb => hb

theorem yields_value {s : Text.Points} (hn : (nodes.get i).Stems n) (hs : ∃ n ∈ nodes, n.content = .scalar s) :
    Yields (Unbuildable nodes) (fun _ => True) (Scalar.value n.tag s) := by
  cases hv : Scalar.value n.tag s
  case ok      => exact .ok trivial
  case error f =>
    rcases hn.tag with ht | ht <;> rw [ht] at hv
    case inr => cases hv
    case inl =>
      obtain ⟨n', hn', hs⟩ := hs
      by_cases hi : nodes.get i = ⟨.unknown, .sequence []⟩
      case pos => rw [hi] at hv; cases hv; exact .error .malformed
      case neg => exact .error (.scalar (mem_of_get hi) hn' hs hv)

theorem builds_visit (i : NodeId) : Builds nodes (visit i) := by
  unfold visit
  refine (builds_value? i).bind fun v _ => .ite (fun _ => .pure trivial) fun _ => (keeps_node i).bind fun n hn => ?_
  split
  case h_9 =>
    refine Keeps.get.bind fun _ _ => (keeps_scalarText _ i).bind fun s hs => (keeps_node i).bind fun n' hn' => ?_
    extract_lets rest
    have hrest : Builds nodes (rest ()) :=
      (Keeps.lift (yields_value hn hs)).bind fun v _ => builds_setValue i v
    refine .ite (fun hb => ?_) fun _ => hrest
    obtain ⟨ht, hc⟩ : n.tag = .timestamp ∧ n'.content.isScalar = false := by simpa using hb
    have ht : (nodes.get i).tag = .timestamp := by
      rcases hn.tag with he | he <;> rw [ht] at he
      case inl => exact he.symm
      case inr => cases he
    refine .throw_bind (.moment (mem_of_get fun he => ?_) ht (hn'.collection hc))
    rw [he] at ht
    cases ht
  all_goals first | exact builds_wait _ _ | exact builds_throw

theorem builds_visitEntry (e : NodeId × NodeId) : Builds nodes (visitEntry e) := by
  refine (builds_visit e.1).bind fun _ _ => (builds_value? e.1).bind fun v _ => ?_
  exact .guard .malformed (builds_visit e.2)

theorem builds_expand (i : NodeId) : Builds nodes (expand i) := by
  unfold expand
  refine (keeps_node i).bind fun n _ => ?_
  split
  case h_1 =>
    exact (builds_items? i).bind fun items _ => (Preserves.forM fun i _ => builds_visit i).bind fun _ _ => builds_setValue _ _
  case h_2 =>
    refine Keeps.get.bind fun _ _ => (builds_flatten _ i).bind fun _ _ => (keeps_entries? i).bind fun entries _ => ?_
    exact (Preserves.forM fun e _ => builds_visitEntry e).bind fun _ _ => builds_setValue _ _
  case h_3 =>
    refine Keeps.get.bind fun _ _ => (builds_flatten _ i).bind fun _ _ => (keeps_entries? i).bind fun entries _ => ?_
    exact Preserves.forM fun e _ => builds_visitEntry e
  case h_4 =>
    refine (builds_items? i).bind fun items _ => (Preserves.forIn fun item _ => ?_).bind fun _ _ => .pure trivial
    refine (keeps_entries? item).bind fun entries _ => ?_
    split
    case h_1 => exact (builds_visit _).bind fun _ _ => (builds_visit _).bind fun _ _ => .pure trivial
    case h_2 => exact .throw_bind .malformed

theorem builds_expandAll (fuel : Nat) : Builds nodes (expandAll fuel) := by
  induction fuel
  case zero         => exact .pure trivial
  case succ fuel ih =>
    rw [expandAll]
    refine Keeps.get.bind fun b _ => ?_
    split
    case h_1 => exact .pure trivial
    case h_2 => exact Keeps.bind (.modify fun _ hb => hb) fun _ _ => (builds_expand _).bind fun _ _ => ih

end Build

-- Where a fault comes from: it stands in the text, or in the nodes that the text is made up of.
def Origin (text : List Char) (f : Fault) : Prop :=
  Unscannable text f ∨ ∃ nodes root, compose text = .ok (nodes, root) ∧ Unbuildable nodes f

theorem yields_ofNodes (nodes : Nodes) (i : NodeId) : Yields (Unbuildable nodes) (fun _ => True)
    ((do Build.visit i; Build.expandAll (nodes.size + 1) : Build Unit).run
      { nodes := nodes, values := Array.replicate nodes.size none }) := by
  have hb : Build.Builds nodes (do Build.visit i; Build.expandAll (nodes.size + 1)) :=
    (Build.builds_visit i).bind fun _ _ => Build.builds_expandAll _
  exact (hb _ fun i => ⟨.inl rfl, fun _ => id, id⟩).mono fun _ _ => trivial

theorem origin_of_ofText {f : Fault} (h : Document.ofText text = .error f) : Origin text f := by
  unfold Document.ofText at h
  cases hc : compose text <;> rw [hc] at h
  case error => cases h; exact .inl (hc ▸ yields_compose).of_error
  case ok x  =>
    obtain ⟨nodes, - | i⟩ := x
    case none => cases h
    case some =>
      have hy : Yields (Unbuildable nodes) (fun _ => True) (.error f : Except Fault Document) := by
        rw [← h]
        exact (yields_ofNodes nodes i).bind fun _ _ => .ok trivial
      exact .inr ⟨nodes, some i, hc, hy.of_error⟩

end TypedResources.Yaml
