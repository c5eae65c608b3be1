import Mathlib.Data.List.Forall2
import Mathlib.Data.List.Nodup
import TypedResources.Proofs.ClassFile.Accessors
import TypedResources.Proofs.ClassFile.Outline

-- What stands in the text of a generated class: the text tells the outline of its blocks
-- (`tells_render`), and in the outline every resource has an accessor (`has_outline_iff`), which looks it
-- up if the resource prevails (`lookup?_eq_some_iff`).

namespace TypedResources

namespace ClassFile

-- How a body hands over what it looks up.
structure Calls (body guard callee r after : String) : Prop where
  eq     : body = guard ++ callee ++ "(" ++ r ++ after
  guard  : guard = "" ∨ guard = "if (args.isEmpty()) "
  callee : Free ['\n', '(', ' '] callee
  ends   : ∀ c ∈ after.toList.head?, c = ')' ∨ c = ','
  after  : Free ['\n'] r → Free ['\n'] after

-- What begins with a closing bracket or a comma ends what is looked up.
theorem ends_of_head? {l : List Char} (h : l.head? = some ')' ∨ l.head? = some ',') :
    ∀ c ∈ l.head?, c = ')' ∨ c = ',' := by
  rcases h with h | h <;> simp [h]

theorem calls_plainly {start after : String} (callee r : String) (hs : start = callee ++ "(" := by decide)
    (hc : Free ['\n', '(', ' '] callee := by decide)
    (he : after.toList.head? = some ')' ∨ after.toList.head? = some ',' := by decide)
    (ha : Free ['\n'] after := by decide) :
    ∃ guard callee after', Calls (start ++ r ++ after) guard callee r after' :=
  ⟨"", callee, after, by simp [hs], .inl rfl, hc, ends_of_head? he, fun _ => ha⟩

theorem calls_conditionally {start middle last : String} (callee r : String)
    (hs : start = "if (args.isEmpty()) " ++ callee ++ "(" := by decide)
    (hc : Free ['\n', '(', ' '] callee := by decide)
    (he : middle.toList.head? = some ')' ∨ middle.toList.head? = some ',' := by decide)
    (hm : Free ['\n'] middle := by decide) (hl : Free ['\n'] last := by decide) :
    ∃ guard callee after, Calls (start ++ r ++ middle ++ r ++ last) guard callee r after := by
  refine ⟨"if (args.isEmpty()) ", callee, middle ++ r ++ last, by simp [hs, String.append_assoc], .inr rfl, hc, ?_, ?_⟩
  case refine_1 =>
    refine ends_of_head? ?_
    rw [String.append_assoc, String.toList_append, List.head?_append]
    exact he.imp (by simp [·]) (by simp [·])
  case refine_2 => exact fun hr => free_append_iff.mpr ⟨free_append_iff.mpr ⟨hm, hr⟩, hl⟩

theorem body_plural (r : String) : (kindSignature .plural).body r =
    "if (args.isEmpty()) context.resources.getQuantityString(" ++ r ++
      (", quantity) " ++ "else context.resources.getQuantityString(") ++ r ++ ", quantity, *args)" :=
  congrArg (· ++ r ++ ", quantity, *args)") String.append_assoc

theorem exists_calls (kind : Kind) (r : String) :
    ∃ guard callee after, Calls ((kindSignature kind).body r) guard callee r after := by
  cases kind
  case array       => exact calls_plainly "context.resources.getStringArray" r
  case boolean     => exact calls_plainly "context.resources.getBoolean" r
  case color       => exact calls_plainly "application.resources.getColor" r
  case dimension   => exact calls_plainly "context.resources.getDimension" r
  case fraction    => exact calls_plainly "context.resources.getFraction" r
  case intArray    => exact calls_plainly "context.resources.getIntArray" r
  case integer     => exact calls_plainly "context.resources.getInteger" r
  case plural      => rw [body_plural]; exact calls_conditionally "context.resources.getQuantityString" r
  case string      => exact calls_conditionally "context.getString" r
  case stringArray => exact calls_plainly "context.resources.getStringArray" r

theorem free_kindSignature (kind : Kind) : Free ['\n', ')'] (kindSignature kind).parameters ∧
    Free ['\n', '='] (kindSignature kind).returnType := by
  cases kind <;> decide +kernel

-- A signature that calls lays out an accessor.
theorem shown_render {s : Signature} {comment? : Option String} {function r guard callee after : String}
    (hcomment : ∀ c ∈ comment?, "/**".toList <+: c.toList)
    (hp : Free ['\n', ')'] s.parameters) (ht : Free ['\n', '='] s.returnType)
    (h : Calls (s.body r) guard callee r after) : (Accessor.mk comment? function r).Shown
      ((comment?.toList ++ [s.render function r]).map ("        " ++ ·)) := by
  have hline : "        " ++ s.render function r = "        @JvmOverloads @JvmStatic fun " ++ function ++ "(" ++
      s.parameters ++ "): " ++ s.returnType ++ " = " ++ guard ++ callee ++ "(" ++ r ++ after := by
    have hf : "        @JvmOverloads @JvmStatic fun " = "        " ++ "@JvmOverloads @JvmStatic fun " := by
      decide +kernel
    unfold Signature.render
    rewrite [h.eq, hf]
    repeat rewrite [String.append_assoc]
    rfl
  rw [List.map_append, List.map_singleton, hline]
  exact .intro hcomment hp ht h.guard h.callee h.ends h.after

end ClassFile

-- The accessors of resources.

def Entry.accessor (e : Entry) : ClassFile.Accessor :=
  ⟨e.comment?, e.function, e.lookup⟩

def Drawable.accessor (a : Drawable) : ClassFile.Accessor :=
  ⟨none, a.function, a.lookup⟩

namespace ClassFile

variable {entries : List Entry} {assets : List Drawable}

theorem shown_lines (e : Entry) : e.accessor.Shown (e.lines.map ("        " ++ ·)) := by
  have ⟨_, _, _, h⟩ := exists_calls e.value.kind e.lookup
  have ⟨hp, ht⟩ := free_kindSignature e.value.kind
  refine shown_render (fun c hc => ?_) hp ht h
  unfold Entry.comment? at hc
  split at hc
  case isTrue  => cases hc; decide +kernel
  case isFalse =>
    split at hc
    case isFalse => cases hc
    case isTrue  =>
      cases hc
      rw [String.append_assoc, String.toList_append]
      exact List.IsPrefix.trans (by decide) (List.prefix_append ..)

theorem shown_line (a : Drawable) : a.accessor.Shown ["        " ++ a.line] := by
  have ⟨_, _, _, h⟩ : ∃ guard callee after, Calls (drawableSignature.body a.lookup) guard callee a.lookup after :=
    calls_plainly "application.resources.getDrawable" a.lookup
  exact shown_render (fun c hc => by cases hc) (by decide) (by decide) h

-- What a class has in its blocks: the kinds of value with a block of their own, the accessors of
-- each of these, and the drawables with an accessor.
structure Blocks where
  kinds     : List Kind
  accessors : Kind → List Entry
  assets    : List Drawable

def Blocks.outline (b : Blocks) : Outline where
  values    := b.kinds.map fun k => ⟨(Block.values k).name, (b.accessors k).map Entry.accessor⟩
  drawables := if b.assets = [] then [] else [⟨Block.drawables.name, b.assets.map Drawable.accessor⟩]

def blocks (entries : List Entry) (assets : List Drawable) : Blocks :=
  ⟨occurringKinds entries, (emitted · entries), emittedDrawables assets⟩

theorem shown_valuePart (name : String) (es : List Entry) :
    (Object.mk name (es.map Entry.accessor)).Shown (Part.render ⟨name, es.flatMap Entry.lines⟩) := by
  have h : List.Forall₂ Accessor.Shown (es.map Entry.accessor) (es.map fun e => e.lines.map ("        " ++ ·)) := by
    rw [List.forall₂_map_left_iff, List.forall₂_map_right_iff]
    exact List.forall₂_same.mpr fun e _ => shown_lines e
  rw [Part.render, List.map_flatMap, List.flatMap_def]
  exact .intro h

theorem shown_drawablePart (name : String) (assets : List Drawable) :
    (Object.mk name (assets.map Drawable.accessor)).Shown (Part.render ⟨name, assets.map Drawable.line⟩) := by
  have h : List.Forall₂ Accessor.Shown (assets.map Drawable.accessor) (assets.map fun a => ["        " ++ a.line]) := by
    rw [List.forall₂_map_left_iff, List.forall₂_map_right_iff]
    exact List.forall₂_same.mpr fun a _ => shown_line a
  have hlines : (assets.map Drawable.line).map ("        " ++ ·) = (assets.map fun a => ["        " ++ a.line]).flatten := by
    rw [← List.flatMap_def, ← List.map_eq_flatMap, List.map_map]
    rfl
  rw [Part.render, hlines]
  exact .intro h

theorem titled_renderSection (category : Category) {objects : List Object} {parts : List Part}
    (h : List.Forall₂ (fun object part => object.Shown part.render) objects parts) :
    Titled category.name objects (renderSection category parts) := by
  cases h
  case nil            => exact .empty
  case cons ho h =>
    rw [renderSection, List.isEmpty_cons, List.flatMap_def]
    refine .below (List.cons_ne_nil _ _) ?_
    rw [List.forall₂_map_right_iff]
    exact .cons ho h

-- The text of a class tells what its blocks are.
theorem tells_render (package : String) (entries : List Entry) (assets : List Drawable) :
    (blocks entries assets).outline.Tells package (render package entries assets) := by
  have hv : List.Forall₂ (fun object part => object.Shown part.render)
      (blocks entries assets).outline.values (valueParts entries) := by
    unfold Blocks.outline valueParts
    rw [List.forall₂_map_left_iff, List.forall₂_map_right_iff]
    exact List.forall₂_same.mpr fun k _ => shown_valuePart _ _
  have hd : List.Forall₂ (fun object part => object.Shown part.render)
      (blocks entries assets).outline.drawables (drawableParts assets) := by
    simp only [Blocks.outline, blocks, drawableParts, emittedDrawables_eq_nil_iff, List.isEmpty_iff]
    split
    case isTrue  => exact .nil
    case isFalse => exact .cons (shown_drawablePart _ _) .nil
  exact (Outline.Shown.intro (titled_renderSection .values hv) (titled_renderSection .drawables hd)).tells

-- A string of the primary module and a color of another one.
example : objectsIn (render "com.example" [⟨⟨"", "com.example"⟩, { name := "foo_bar", kind := .string }⟩,
    ⟨⟨"lib", "com.lib"⟩, { name := "b", kind := .color }⟩] []) =
    [⟨"Colors", [⟨none, "b_lib", "com.lib.R.color.b"⟩]⟩, ⟨"Strings", [⟨none, "fooBar", "R.string.foo_bar"⟩]⟩] := by
  rw [(tells_render ..).read (by decide) (by decide +kernel)]
  decide +kernel

theorem name_injective : Function.Injective Block.name := by
  have h : ∀ k ∈ Kind.all, (∀ k' ∈ Kind.all, (Block.values k).name = (Block.values k').name → k = k') ∧
      (Block.values k).name ≠ Block.drawables.name := by decide
  intro b b' hb
  cases b <;> cases b'
  case values.values k k'    => exact congrArg _ ((h k k.mem_all).left k' k'.mem_all hb)
  case values.drawables k    => exact absurd hb (h k k.mem_all).right
  case drawables.values k    => exact absurd hb.symm (h k k.mem_all).right
  case drawables.drawables   => rfl

-- The accessors of a block of the class.
def accessorsOf (entries : List Entry) (assets : List Drawable) : Block → List Accessor
  | .values kind => (emitted kind entries).map Entry.accessor
  | .drawables   => (emittedDrawables assets).map Drawable.accessor

theorem nodup_occurringKinds : (occurringKinds entries).Nodup :=
  List.Nodup.filter _ (by decide)

theorem emitted_eq_nil {kind : Kind} (h : kind ∉ occurringKinds entries) : emitted kind entries = [] := by
  have h : entriesOf kind entries = [] := by
    rw [entriesOf, ← List.length_eq_zero_iff, (sortBy_perm _ _).length_eq, List.length_eq_zero_iff]
    simpa [occurringKinds, Kind.mem_all] using h
  rw [emitted, h]
  rfl

-- Only the object of the block has its name.
theorem accessors_outline (b : Block) :
    (blocks entries assets).outline.accessors b.name = accessorsOf entries assets b := by
  cases b
  case values k =>
    have hd : (blocks entries assets).outline.drawables.filter (·.name = (Block.values k).name) = [] := by
      unfold Blocks.outline
      split <;> simp [name_injective.eq_iff]
    have hv : (blocks entries assets).outline.values.filter (·.name = (Block.values k).name) =
        ((occurringKinds entries).filter (· = k)).map fun k =>
          ⟨(Block.values k).name, (emitted k entries).map Entry.accessor⟩ := by
      simp [Blocks.outline, blocks, List.filter_map, Function.comp_def, name_injective.eq_iff]
    rw [Outline.accessors, Outline.objects, List.filter_append, hv, hd, List.append_nil, List.filter_eq,
      List.Nodup.count nodup_occurringKinds]
    split
    case isTrue    => simp [accessorsOf]
    case isFalse h => simp [accessorsOf, emitted_eq_nil h]
  case drawables =>
    have hv : (blocks entries assets).outline.values.filter (·.name = Block.drawables.name) = [] := by
      simp [Blocks.outline, name_injective.eq_iff]
    rw [Outline.accessors, Outline.objects, List.filter_append, hv, List.nil_append, accessorsOf]
    unfold Blocks.outline blocks
    split
    case isTrue h  => simp [show emittedDrawables assets = [] from h]
    case isFalse h => simp

theorem exists_block_of_has {name function : String} (h : (blocks entries assets).outline.Has name function) :
    ∃ b : Block, b.name = name := by
  have ⟨_, ha, _⟩ := h
  have ⟨object, hf, _⟩ := List.mem_flatMap.mp ha
  have ⟨ho, hn⟩ := List.mem_filter.mp hf
  rw [← of_decide_eq_true hn]
  rcases List.mem_append.mp ho with ho | ho
  case inl =>
    have ⟨k, _, hk⟩ := List.mem_map.mp ho
    exact ⟨.values k, congrArg Object.name hk⟩
  case inr =>
    unfold Blocks.outline at ho
    split at ho
    case isTrue  => cases ho
    case isFalse => exact ⟨.drawables, (congrArg Object.name (List.mem_singleton.mp ho)).symm⟩

theorem has_outline_iff {b : Block} {function : String} : (blocks entries assets).outline.Has b.name function ↔
    ∃ r ∈ resources entries assets, r.block = b ∧ r.function = function := by
  rw [Outline.Has, accessors_outline, ← exists_mem_accessorsIn_iff]
  cases b
  case values kind => simp [accessorsOf, Entry.accessor, ← @map_emitted entries assets, function_ofEntry]
  case drawables   =>
    simp [accessorsOf, Drawable.accessor, ← @map_emittedDrawables entries, function_ofDrawable]

theorem lookup?_outline {b : Block} {function : String} : (blocks entries assets).outline.lookup? b.name function =
    ((accessorsIn (resources entries assets) b).find? (·.function = function)).map Resource.lookup := by
  rw [Outline.lookup?, accessors_outline]
  cases b
  case values kind =>
    have hl : Resource.lookup ∘ Resource.ofEntry = Entry.lookup := funext lookup_ofEntry
    rw [accessorsOf, ← map_emitted, List.find?_map, List.find?_map, Option.map_map, Option.map_map, hl]
    rfl
  case drawables   =>
    have hl : Resource.lookup ∘ Resource.ofDrawable = Drawable.lookup := funext lookup_ofDrawable
    rw [accessorsOf, ← map_emittedDrawables, List.find?_map, List.find?_map, Option.map_map, Option.map_map, hl]
    rfl

-- A resource's accessor looks it up exactly if the resource prevails.
theorem lookup?_eq_some_iff {own : Resource} (ho : own ∈ resources entries assets) :
    (blocks entries assets).outline.lookup? own.block.name own.function = some own.lookup ↔
      Prevails (resources entries assets) own := by
  rw [lookup?_outline, lookup_accessorsIn_iff ho]

end ClassFile

end TypedResources
