import TypedResources.Proofs.Migration.Lines
import TypedResources.Proofs.Migration.Targets

-- What replaced calls look up. A call is replaced by one of the accessor that is named after its
-- resource (`resource_of_target`). That accessor looks up the same resource exactly if no other one
-- that asks for the same name comes before it, which camel case does not ensure.

namespace TypedResources

open Migration ClassFile

theorem Call.tag_of_mem_blocks {shape : Shape} {b : Block} (hs : shape ∈ shapes) (hb : b ∈ shape.blocks) :
    b.tag = shape.tag := by
  have h : ∀ shape ∈ shapes, ∀ b ∈ shape.blocks, b.tag = shape.tag := by decide
  exact h shape hs b hb

theorem reference_injective (tag : String) : Function.Injective (reference tag) := by
  intro field field' h
  simpa [reference, String.append_assoc] using h

namespace Migration

variable {k : Knowledge} {imported : Option String} {c : Call} {t : Target} {rs : List Resource}
  {own : Resource}

theorem key_eq_iff (hs : c.shape ∈ Call.shapes) (hb : own.block ∈ c.shape.blocks) :
    reference own.block.tag own.field = c.key ↔ own.field = String.ofList c.field := by
  rw [Call.key, Call.tag_of_mem_blocks hs hb]
  exact (reference_injective _).eq_iff

-- The target of a call stands for a resource that has the type and the field of its reference.
theorem resource_of_target (hs : c.shape ∈ Call.shapes) (hr : resolve k imported c = .ok t)
    (ho : own.target = (c.key, t)) :
    own.block = t.block ∧ own.function = t.function ∧ own.owner.name = t.owner ∧
      own.lookup = Naming.resourceClass own.owner ++ "." ++ c.shape.tag ++ "." ++ String.ofList c.field := by
  have hk : reference own.block.tag own.field = c.key := congrArg Prod.fst ho
  have ht : ⟨own.block, own.function, own.owner.name⟩ = t := congrArg Prod.snd ho
  subst ht
  have hb := (mem_of_resolve hr).right
  have hf := (key_eq_iff hs hb).mp hk
  refine ⟨rfl, rfl, rfl, ?_⟩
  rw [Resource.lookup, hf, Call.tag_of_mem_blocks hs hb]

-- What is replaced in a text is a call that a shape meets in it. The accessor that takes its place
-- looks up the resource class of its target's module, its own type and its own field, exactly if the
-- resource behind the target prevails over those that share the accessor.
theorem replaced_call_lookup_iff {d : Disk} {groups : List ResourceGroup} (options : ClassFile.Options)
    (package : String) (hd : ∀ doc ∈ documents groups, ∃ values, Definition.read d doc.2 = .ok values) :
    ∃ ts entries, (targets groups).result d = .ok ts ∧
      (readEntries options.strict (documents groups)).result d = .ok (entries, []) ∧
      (generate options package groups).result d = .ok ⟨render package entries (drawables groups), []⟩ ∧
      (blocks entries (drawables groups)).outline.Tells package (render package entries (drawables groups)) ∧
      ∀ k : Knowledge, k.targets = ts →
        (∀ isJava text line before after, .replaced line before after ∈ (revise k isJava text).events →
          ∃ imported shape o t, Meets k text line imported shape o ∧
            resolve k imported (Call.ofOccurrence shape o) = .ok t ∧ before = String.ofList o.text ∧
            after = t.call (String.ofList (Call.ofOccurrence shape o).arguments)) ∧
        ∀ imported c t, c.shape ∈ Call.shapes → resolve k imported c = .ok t →
          (∃ own ∈ resources entries (drawables groups), own.target = (c.key, t)) ∧
          ∀ own ∈ resources entries (drawables groups), own.target = (c.key, t) →
            own.owner.name = t.owner ∧
            ((blocks entries (drawables groups)).outline.lookup? t.block.name t.function =
                some (Naming.resourceClass own.owner ++ "." ++ c.shape.tag ++ "." ++ String.ofList c.field) ↔
              Prevails (resources entries (drawables groups)) own) := by
  have he (strict : Bool) := @result_readEntries _ _ strict hd
  have ha := targets_agree (d := d) groups
  rw [entriesOn, he false] at ha
  generalize htr : (targets groups).result d = ts at ha
  cases ha with
  | ok h =>
    refine ⟨_, _, rfl, he _, by rw [result_generate, he]; rfl, tells_render .., ?_⟩
    rintro k rfl
    refine ⟨fun isJava text line before after hm => ?_, fun imported c t hs hr => ⟨?_, fun own ho hown => ?_⟩⟩
    case refine_1 =>
      obtain ⟨n, imported, shape, o, hmeets, he⟩ := (mem_events_revise_iff fun _ _ _ => Event.noConfusion).mp hm
      obtain ⟨rfl, t, ht, hb, ha⟩ := migrateCall_eq_replaced_iff.mp he
      exact ⟨imported, shape, o, t, hmeets, ht, hb, ha⟩
    case refine_2 => exact (h _).mp (mem_of_resolve hr).left
    case refine_3 =>
      obtain ⟨hb, hf, hn, hl⟩ := resource_of_target hs hr hown
      refine ⟨hn, ?_⟩
      rw [← hb, ← hf, ← hl]
      exact lookup?_eq_some_iff ho

-- Two strings of one module, whose names camel case makes one.
def twinDocument : Path := ⟨.root, ["values.xml"]⟩

def twinDisk : Disk where
  entries := [(["values.xml"], .file (Text.Utf8.encode
    "<resources><string name=\"fooBar\"/><string name=\"foo_bar\"/></resources>".toList) 0)]

def twinGroup : ResourceGroup :=
  ⟨.values, ⟨"", "com.example"⟩, [twinDocument]⟩

def twinEntries : List Entry :=
  ["fooBar", "foo_bar"].map fun name => ⟨twinGroup.owner, { name, kind := .string }⟩

def twinTargets : List (String × Target) :=
  ["R.string.fooBar", "R.string.foo_bar"].map (·, ⟨.values .string, "fooBar", ""⟩)

theorem read_twins : Definition.read twinDisk twinDocument = .ok (twinEntries.map Entry.value) := by
  decide +kernel

-- The call of one string becomes a call that looks up the other one.
theorem twin_call_changes_resource :
    (targets [twinGroup]).result twinDisk = .ok twinTargets ∧
    .replaced 1 "getString(R.string.foo_bar)" "ResourceManager.Strings.fooBar()" ∈
      (revise { targets := twinTargets } false "getString(R.string.foo_bar)".toList).events ∧
    ((generate {} "com.example" [twinGroup]).result twinDisk).map (objectsIn ·.content) =
      .ok [⟨"Strings", [⟨none, "fooBar", "R.string.fooBar"⟩]⟩] := by
  have hr : (readEntries true (documents [twinGroup])).result twinDisk = .ok (twinEntries, []) := by decide +kernel
  refine ⟨by decide +kernel, by decide +kernel, ?_⟩
  rw [result_generate, hr, Except.map, Except.map, (tells_render ..).read (by decide) (by decide +kernel)]
  decide +kernel

theorem twin_calls_have_resources : ∃ ts entries, (targets [twinGroup]).result twinDisk = .ok ts ∧
    (generate {} "com.example" [twinGroup]).result twinDisk =
      .ok ⟨render "com.example" entries (drawables [twinGroup]), []⟩ ∧
    ∀ k : Knowledge, k.targets = ts → ∀ imported c t, c.shape ∈ Call.shapes → resolve k imported c = .ok t →
      ∃ own ∈ resources entries (drawables [twinGroup]), own.target = (c.key, t) := by
  have hd : ∀ doc ∈ documents [twinGroup], ∃ values, Definition.read twinDisk doc.2 = .ok values :=
    List.forall_mem_singleton.mpr ⟨_, read_twins⟩
  have ⟨ts, entries, ht, _, hg, _, h⟩ := replaced_call_lookup_iff {} "com.example" hd
  exact ⟨ts, entries, ht, hg, fun k hk imported c t hs hr => ((h k hk).right imported c t hs hr).left⟩

end Migration

end TypedResources
