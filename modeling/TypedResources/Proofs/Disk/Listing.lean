import Mathlib.Data.List.Nodup
import TypedResources.Proofs.ClassFile.Foremost
import TypedResources.Proofs.Disk.Spares

-- What stands in a directory. On a sound disk each key has one node, so that the listing of a directory
-- says what its children are, each once and by ascending name, whatever order the entries of the disk
-- are kept in (`relisted`).

namespace TypedResources.Disk

variable {d d' : Disk} {k k' : Key} {n : Node} {p : Path} {content : Bytes} {time : Int} {name : String}
  {parts : List String} {es : List (Key × Node)}

-- A name that a file can have. It is no double dot, and no path is refused for it.
structure IsName (name : String) : Prop where
  noParent   : name ≠ ".."
  notRefused : ¬isRefused name

instance : Decidable (IsName name) :=
  decidable_of_iff (name ≠ ".." ∧ ¬isRefused name)
    ⟨fun h => ⟨h.left, h.right⟩, fun h => ⟨h.noParent, h.notRefused⟩⟩

-- Each key has one node, and all names are names of files.
structure Sound (d : Disk) : Prop where
  distinct   : (d.entries.map Prod.fst).Nodup
  names      : ∀ e ∈ d.entries, ∀ name ∈ e.1, IsName name
  workingDir : ∀ name ∈ d.workingDir.key, IsName name

instance : Decidable d.Sound :=
  decidable_of_iff ((d.entries.map Prod.fst).Nodup ∧ (∀ e ∈ d.entries, ∀ name ∈ e.1, IsName name) ∧
      ∀ name ∈ d.workingDir.key, IsName name)
    ⟨fun h => ⟨h.left, h.right.left, h.right.right⟩, fun h => ⟨h.distinct, h.names, h.workingDir⟩⟩

theorem Sound.mem_entries_iff (hd : d.Sound) (hk : k ≠ []) : (k, n) ∈ d.entries ↔ d.node? k = some n := by
  rw [node?, if_neg hk]
  constructor
  case mpr =>
    intro h
    obtain ⟨⟨key, node⟩, hf, rfl⟩ := Option.map_eq_some_iff.mp h
    have hkey : key = k := by simpa using List.find?_some hf
    exact hkey ▸ List.mem_of_find?_eq_some hf
  case mp =>
    intro h
    obtain ⟨e, hf⟩ := Option.isSome_iff_exists.mp <|
      (List.find?_isSome (p := fun e : Key × Node => e.1 = k)).mpr ⟨(k, n), h, by simp⟩
    have hkey : e.1 = k := by simpa using List.find?_some hf
    have he : e = (k, n) := List.inj_on_of_nodup_map hd.distinct (List.mem_of_find?_eq_some hf) h hkey
    rw [hf, he]
    rfl

theorem Sound.isName (hd : d.Sound) (h : d.node? (k ++ [name]) = some n) : IsName name :=
  hd.names _ ((hd.mem_entries_iff (by simp)).mpr h) name (by simp)

-- The name and the node of an entry that stands directly in a directory.
def child? (k : Key) (e : Key × Node) : Option (String × Node) :=
  match e.1.getLast? with
  | some name => if e.1.dropLast = k then some (name, e.2) else none
  | none      => none

theorem children_eq (d : Disk) (k : Key) : d.children k = sortByName Prod.fst (d.entries.filterMap (child? k)) :=
  rfl

theorem child?_eq_some_iff {e : Key × Node} : child? k e = some (name, n) ↔ e = (k ++ [name], n) := by
  obtain ⟨key, node⟩ := e
  rcases List.eq_nil_or_concat key with rfl | ⟨above, last, rfl⟩
  case inl => simp [child?]
  case inr =>
    simp only [child?, List.concat_eq_append, List.getLast?_concat, List.dropLast_concat]
    split <;> simp_all

theorem Sound.mem_children_iff (hd : d.Sound) : (name, n) ∈ d.children k ↔ d.node? (k ++ [name]) = some n := by
  rw [← hd.mem_entries_iff (by simp), children_eq, sortByName, mem_sortBy, List.mem_filterMap]
  simp [child?_eq_some_iff]

theorem Sound.nodup_names (hd : d.Sound) : ((d.children k).map Prod.fst).Nodup := by
  have hp := (sortBy_perm (byName Prod.fst) (d.entries.filterMap (child? k))).map Prod.fst
  rw [children_eq, sortByName, hp.nodup_iff]
  have hk : (d.entries.filterMap (child? k)).map Prod.fst =
      (d.entries.map Prod.fst).filterMap fun key => (child? k (key, .dir)).map Prod.fst := by
    rw [List.map_filterMap, List.filterMap_map]
    refine List.filterMap_congr fun e _ => ?_
    simp only [Function.comp_def, child?]
    cases e.1.getLast?
    case none => rfl
    case some => dsimp only; split <;> rfl
  rw [hk]
  refine List.Nodup.filterMap (fun key key' name h h' => ?_) hd.distinct
  obtain ⟨⟨_, n⟩, hc, rfl⟩ := Option.map_eq_some_iff.mp h
  obtain ⟨⟨_, n'⟩, hc', rfl⟩ := Option.map_eq_some_iff.mp h'
  have he := child?_eq_some_iff.mp hc
  have he' := child?_eq_some_iff.mp hc'
  exact (congrArg Prod.fst he).trans (congrArg Prod.fst he').symm

theorem Sound.pairwise_children (hd : d.Sound) : (d.children k).Pairwise (·.1 < ·.1) := by
  have hs : (d.children k).Pairwise (byName Prod.fst · ·) :=
    pairwise_sortBy (byName_trans _) (byName_total _) _
  refine (hs.and (List.pairwise_map.mp (hd.nodup_names (k := k)))).imp fun h => ?_
  exact Std.lt_of_le_of_ne (by simpa [byName] using h.left) h.right

theorem list_of_isDir (h : d.isDir p) : d.list p = d.children (d.keyOf p) := by
  rw [list, (isDir_iff_keyOf.mp h).left]

theorem Sound.mem_list_iff (hd : d.Sound) (h : d.isDir p) :
    (name, n) ∈ d.list p ↔ IsName name ∧ d.stat (p.child name) = .ok n := by
  rw [list_of_isDir h, hd.mem_children_iff]
  constructor
  case mp =>
    intro hn
    have hname := hd.isName hn
    exact ⟨hname, stat_eq_ok_iff.mpr ⟨_, locate_child h hname.noParent hname.notRefused, hn⟩⟩
  case mpr =>
    rintro ⟨hname, hs⟩
    obtain ⟨k, hl, hn⟩ := stat_eq_ok_iff.mp hs
    rw [locate_child h hname.noParent hname.notRefused] at hl
    cases hl
    exact hn

theorem isDir_iff_stat : d.isDir p ↔ d.stat p = .ok .dir := by
  unfold isDir
  split <;> simp_all

theorem isFile_iff_stat : d.isFile p ↔ ∃ content time, d.stat p = .ok (.file content time) := by
  unfold isFile
  split <;> simp_all

theorem isFile_child_iff (h : d.isDir p) (hn : IsName name) :
    d.isFile (p.child name) ↔ ∃ content time, d.node? (d.keyOf p ++ [name]) = some (.file content time) := by
  have hl : d.locate (p.child name) = .ok (d.keyOf p ++ [name]) := locate_child h hn.noParent hn.notRefused
  rw [isFile_iff_stat]
  simp only [stat_eq_ok_iff, hl, Except.ok.injEq, exists_eq_left']

theorem exists_stat_of_has (h : d.has p) : ∃ n, d.stat p = .ok n := by
  unfold has at h
  split at h
  case h_1 n hs => exact ⟨n, hs⟩
  case h_2      => contradiction

theorem has_of_stat (h : d.stat p = .ok n) : d.has p := by
  rw [has, h]

theorem readBytes_congr (h : d.stat p = .ok n) (h' : d'.stat p = .ok n) : d'.readBytes p = d.readBytes p := by
  obtain ⟨k, hl, hn⟩ := stat_eq_ok_iff.mp h
  obtain ⟨k', hl', hn'⟩ := stat_eq_ok_iff.mp h'
  rw [readBytes, readBytes, stat, stat, hl, hl', ok_bind, ok_bind, hn, hn']

theorem Sound.dir_mem_list_iff (hd : d.Sound) (h : d.isDir p) :
    (name, .dir) ∈ d.list p ↔ IsName name ∧ d.isDir (p.child name) := by
  rw [hd.mem_list_iff h, isDir_iff_stat]

theorem Sound.file_mem_list_iff (hd : d.Sound) (h : d.isDir p) :
    (∃ content time, (name, .file content time) ∈ d.list p) ↔ IsName name ∧ d.isFile (p.child name) := by
  simp only [hd.mem_list_iff h, isFile_iff_stat]
  grind

theorem Sound.pairwise_list (hd : d.Sound) : (d.list p).Pairwise (·.1 < ·.1) := by
  unfold list
  split
  case h_1 => exact hd.pairwise_children
  case h_2 => exact .nil

-- The same disk with its entries kept in another order.
def relisted (d : Disk) (es : List (Key × Node)) : Disk :=
  { d with entries := es }

theorem Sound.relisted (hd : d.Sound) (h : es.Perm d.entries) : (d.relisted es).Sound where
  distinct   := (h.map Prod.fst).nodup_iff.mpr hd.distinct
  names      := fun e he => hd.names e (h.mem_iff.mp he)
  workingDir := hd.workingDir

theorem Sound.node?_relisted (hd : d.Sound) (h : es.Perm d.entries) : (d.relisted es).node? k = d.node? k := by
  by_cases hk : k = []
  case pos => rw [hk, node?_nil, node?_nil]
  case neg =>
    refine Option.ext fun n => ?_
    rw [← (hd.relisted h).mem_entries_iff hk, ← hd.mem_entries_iff hk]
    exact h.mem_iff

-- What a walk finds is decided by the nodes.
theorem follow_congr (h : ∀ k, d'.node? k = d.node? k) : d'.follow k parts = d.follow k parts := by
  induction parts generalizing k
  case nil              => rfl
  case cons part rest ih => rw [follow, follow, h]; simp only [ih]

theorem climb_congr {lost : Nat} (h : ∀ k, d'.node? k = d.node? k) : d'.climb lost k parts = d.climb lost k parts := by
  induction lost generalizing k parts
  case zero         => exact follow_congr h
  case succ lost ih =>
    cases parts
    case nil  => rfl
    case cons => rw [climb, climb, h, ih]

theorem Sound.stat_relisted (hd : d.Sound) (h : es.Perm d.entries) : (d.relisted es).stat p = d.stat p := by
  have hn : ∀ k, (d.relisted es).node? k = d.node? k := fun k => hd.node?_relisted h
  unfold stat locate
  simp only [climb_congr hn, hn]
  rfl

theorem Sound.list_relisted (hd : d.Sound) (h : es.Perm d.entries) : (d.relisted es).list p = d.list p := by
  have hn : ∀ k, (d.relisted es).node? k = d.node? k := fun k => hd.node?_relisted h
  have hc (k : Key) : (d.relisted es).children k = d.children k := by
    have hp : ((d.relisted es).children k).Perm (d.children k) :=
      (sortBy_perm _ _).trans ((h.filterMap (child? k)).trans (sortBy_perm _ _).symm)
    refine hp.eq_of_pairwise (fun a b _ _ hab hba => ?_) (hd.relisted h).pairwise_children hd.pairwise_children
    exact absurd (String.lt_trans hab hba) (String.lt_irrefl _)
  unfold list locate
  simp only [climb_congr hn, hc]
  rfl

theorem Sound.set (hd : d.Sound) (hk : ∀ name ∈ k, IsName name) : (d.set k n).Sound where
  distinct   := by
    rw [Disk.set, List.map_cons, List.nodup_cons]
    refine ⟨fun h => ?_, List.Nodup.sublist (List.filter_sublist.map _) hd.distinct⟩
    obtain ⟨e, he, hek⟩ := List.mem_map.mp h
    simpa [hek] using (List.mem_filter.mp he).right
  names      := fun e he => by
    rcases List.mem_cons.mp he with rfl | he
    case inl => exact hk
    case inr => exact hd.names e (List.mem_of_mem_filter he)
  workingDir := hd.workingDir

theorem Sound.eraseBelow (hd : d.Sound) : (d.eraseBelow k).Sound where
  distinct   := List.Nodup.sublist (List.filter_sublist.map _) hd.distinct
  names      := fun e he => hd.names e (List.mem_of_mem_filter he)
  workingDir := by
    change ∀ name ∈ (d.workingDir.without k).key, IsName name
    rw [WorkingDir.key_without]
    exact hd.workingDir

-- A path that is found leads to a key with proper names.
theorem Sound.isName_of_locate (hd : d.Sound) (h : d.locate p = .ok k) : ∀ name ∈ k, IsName name := by
  have hz : ∀ part ∈ p.parts, ¬isRefused part := by
    unfold locate at h
    split at h
    case isTrue     => contradiction
    case isFalse hz => simpa [refuses] using hz
  have hstep (parts : List String) (k : Key) (hk : ∀ name ∈ k, IsName name)
      (hp : ∀ part ∈ parts, ¬isRefused part) : ∀ name ∈ parts.foldl step k, IsName name := by
    induction parts generalizing k
    case nil              => exact hk
    case cons part rest ih =>
      obtain ⟨hpart, hrest⟩ := List.forall_mem_cons.mp hp
      refine ih _ (fun name hname => ?_) hrest
      unfold step at hname
      split at hname
      case isTrue     => exact hk name (List.dropLast_subset k hname)
      case isFalse hn =>
        rcases List.mem_append.mp hname with hname | hname
        case inl => exact hk name hname
        case inr => exact List.mem_singleton.mp hname ▸ ⟨hn, hpart⟩
  rw [locate_eq_ok h]
  refine hstep p.parts _ ?_ hz
  unfold origin
  split
  case isTrue  => exact List.forall_mem_nil _
  case isFalse => exact hd.workingDir

theorem Sound.writeBytes (hd : d.Sound) (h : d.writeBytes p content time = .ok d') : d'.Sound := by
  obtain ⟨k, hl, _, rfl⟩ := writeBytes_eq_ok_iff.mp h
  exact hd.set (hd.isName_of_locate hl)

theorem Sound.makeDir (hd : d.Sound) (h : d.makeDir p = .ok d') : d'.Sound := by
  obtain ⟨k, hl, _, rfl⟩ := makeDir_eq_ok_iff.mp h
  exact hd.set (hd.isName_of_locate hl)

theorem Sound.removeTree (hd : d.Sound) (h : d.removeTree p = .ok d') : d'.Sound := by
  by_cases hp : d.isDir p
  case neg =>
    obtain ⟨f, hf⟩ := removeTree_of_not_isDir hp
    cases hf.symm.trans h
  case pos =>
    cases (removeTree_of_isDir hp).symm.trans h
    exact hd.eraseBelow

end TypedResources.Disk
