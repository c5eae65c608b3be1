import Mathlib.Data.List.Perm.Subperm
import TypedResources.Disk.Tree
import TypedResources.Proofs.Disk.Listing

-- What a walk through a directory tree comes to. Each file is told by the names that lead to it from the
-- root. A walk finds the accepted files that no excluded directory hides, each once, and it finds them in
-- an order that depends on their names alone (`file_tree_exact`).

namespace TypedResources

variable {p : Path} {name : String} {names : List String}

-- What is found from a path by following names.
def Path.below (p : Path) (names : List String) : Path :=
  ⟨p.anchor, p.parts ++ names⟩

theorem Path.below_cons : p.below (name :: names) = (p.child name).below names := by
  simp [below, child]

theorem Path.below_append {rest : List String} : p.below (names ++ rest) = (p.below names).below rest := by
  simp [below]

theorem Path.below_singleton : p.below [name] = p.child name :=
  rfl

theorem Path.below_injective : Function.Injective p.below := by
  intro names names' h
  exact List.append_cancel_left (congrArg Path.parts h)

theorem Path.name_below (h : names ≠ []) : (p.below names).name = names.getLast h := by
  simp [below, Path.name, List.getLast?_append, List.getLast?_eq_some_getLast h]

namespace Disk

variable {d : Disk} {q : Path → Bool} {keep : String → Bool} {p root : Path} {depth : Nat} {k k' : Key} {n : Node}
  {part : String} {parts rest names' : List String} {es : List (Key × Node)}

-- Whether a walk comes to one file before another one. The files of a directory come before all that
-- is deeper, and names ascend.
def Before : List String → List String → Prop
  | [a],         [b]           => a < b
  | [_],         _ :: _ :: _   => True
  | a :: b :: s, a' :: b' :: t => a < a' ∨ a = a' ∧ Before (b :: s) (b' :: t)
  | _,           _             => False

-- What a walk from the root is to find: a file that is accepted, in no excluded directory.
structure Listed (d : Disk) (q : Path → Bool) (root : Path) (names : List String) : Prop where
  nonempty : names ≠ []
  proper   : ∀ name ∈ names, IsName name
  file     : d.isFile (root.below names)
  entered  : ∀ dir ∈ names.dropLast, dir ∉ excludedDirs
  accepted : (root.below names).name ∉ excludedFiles ∧ q (root.below names)

theorem Before.irrefl (names : List String) : ¬Before names names := by
  induction names
  case nil           => exact id
  case cons a s ih =>
    cases s
    case nil      => exact String.lt_irrefl a
    case cons b s =>
      rintro (h | ⟨-, h⟩)
      · exact String.lt_irrefl a h
      · exact ih h

theorem before_cons_iff (h : names ≠ []) (h' : names' ≠ []) {a b : String} :
    Before (a :: names) (b :: names') ↔ a < b ∨ a = b ∧ Before names names' := by
  cases names
  case nil => contradiction
  cases names'
  case nil => contradiction
  rfl

theorem before_of_singleton (h : names ≠ []) {a b : String} : Before [a] (b :: names) := by
  cases names
  case nil  => contradiction
  case cons => exact True.intro

theorem exists_follow_of_append (h : d.follow k (parts ++ part :: rest) = .ok k') :
    ∃ k₁, d.follow k parts = .ok k₁ ∧ d.node? k₁ = some .dir := by
  induction parts generalizing k
  case nil =>
    rw [List.nil_append, follow] at h
    split at h
    case h_1    => contradiction
    case h_2    => contradiction
    case h_3 hn => exact ⟨k, rfl, hn⟩
  case cons first parts ih =>
    rw [List.cons_append, follow] at h
    split at h
    case h_1    => contradiction
    case h_2    => contradiction
    case h_3 hn =>
      rw [follow, hn]
      exact ih h

theorem exists_climb_of_append {lost : Nat} (hp : part ≠ "..")
    (h : d.climb lost k (parts ++ part :: rest) = .ok k') :
    ∃ k₁, d.climb lost k parts = .ok k₁ ∧ d.node? k₁ = some .dir := by
  induction lost generalizing k parts
  case zero         => exact exists_follow_of_append h
  case succ lost ih =>
    cases parts
    case nil  =>
      rw [List.nil_append, climb, if_neg (by simp [hp])] at h
      cases h
    case cons =>
      rw [List.cons_append, climb] at h
      split at h
      case isFalse   => cases h
      case isTrue hc => rw [climb, if_pos hc]; exact ih h

-- Whatever is found below a path is found through a directory. The parent of a working directory that
-- was removed is found as well.
theorem isDir_of_stat_below (hp : name ≠ "..") (h : d.stat (root.below (name :: names)) = .ok n) : d.isDir root := by
  obtain ⟨k, hl, -⟩ := stat_eq_ok_iff.mp h
  unfold locate at hl
  split at hl
  case isTrue     => contradiction
  case isFalse hz =>
    obtain ⟨k₁, hf, hn⟩ := exists_climb_of_append hp hl
    refine isDir_iff.mpr ⟨k₁, ?_, hn⟩
    have hz : ¬refuses root := fun h => hz (by
      rw [refuses, Path.below, List.any_append, ← refuses, h, Bool.true_or])
    rw [locate, if_neg hz]
    exact hf

theorem exists_stat_of_append (hp : ∀ name ∈ rest, IsName name)
    (h : d.stat (root.below (names ++ rest)) = .ok n) : ∃ n', d.stat (root.below names) = .ok n' := by
  cases rest
  case nil            => exact ⟨n, List.append_nil names ▸ h⟩
  case cons name rest =>
    rw [Path.below_append] at h
    exact ⟨.dir, isDir_iff_stat.mp (isDir_of_stat_below (hp name List.mem_cons_self).noParent h)⟩

theorem node?_of_stat (h : d.stat p = .ok n) : d.node? (d.keyOf p) = some n := by
  obtain ⟨k, hl, hn⟩ := stat_eq_ok_iff.mp h
  exact locate_eq_ok hl ▸ hn

theorem isDir_of_isFile_below (h : d.isFile (root.below names)) (hp : ∀ name ∈ names, IsName name)
    (hn : names ≠ []) : d.isDir root := by
  obtain ⟨content, time, hs⟩ := isFile_iff_stat.mp h
  cases names
  case nil         => contradiction
  case cons name _ => exact isDir_of_stat_below (hp name List.mem_cons_self).noParent hs

theorem keyOf_below (h : ∀ name ∈ names, IsName name) : d.keyOf (root.below names) = d.keyOf root ++ names := by
  induction names generalizing root
  case nil => rw [Path.below, List.append_nil, List.append_nil]
  case cons name names ih =>
    have ⟨hname, hnames⟩ := List.forall_mem_cons.mp h
    rw [Path.below_cons, ih hnames, keyOf_child hname.noParent, List.append_assoc, List.singleton_append]

-- The names of the accepted files that stand directly in a directory.
def fileNames (d : Disk) (q : Path → Bool) (root : Path) : List String :=
  (d.list root).filterMap fun
    | (name, .file ..) => if accepts q (root.child name) then some name else none
    | (_, .dir)        => none

-- The names of the directories in there that are kept.
def dirNames (d : Disk) (keep : String → Bool) (root : Path) : List String :=
  (d.list root).filterMap fun
    | (name, .dir)  => if keep name then some name else none
    | (_, .file ..) => none

def isEntered (name : String) : Bool :=
  !excludedDirs.contains name

-- What a walk finds, as the names that lead there.
def namesBelow (d : Disk) (q : Path → Bool) : Nat → Path → List (List String)
  | 0,         _    => []
  | depth + 1, root =>
    (d.fileNames q root).map ([·]) ++
      (d.dirNames isEntered root).flatMap fun name => (d.namesBelow q depth (root.child name)).map (name :: ·)

theorem filesIn_eq (h : d.isDir root) : d.filesIn q root = (d.fileNames q root).map root.child := by
  rw [filesIn, if_pos h, fileNames, List.map_filterMap]
  refine List.filterMap_congr fun e _ => ?_
  rcases e with ⟨name, _ | _⟩
  case file => dsimp only; split <;> rfl
  case dir  => rfl

theorem Sound.mem_fileNames_iff (hd : d.Sound) (h : d.isDir root) : name ∈ d.fileNames q root ↔
    IsName name ∧ d.isFile (root.child name) ∧ name ∉ excludedFiles ∧ q (root.child name) := by
  have ha : accepts q (root.child name) ↔ name ∉ excludedFiles ∧ q (root.child name) := by
    simp [accepts, ← Path.below_singleton, Path.name_below]
  rw [← ha, ← and_assoc, ← hd.file_mem_list_iff h, fileNames, List.mem_filterMap]
  constructor
  case mp =>
    rintro ⟨⟨found, _ | _⟩, he, hs⟩
    case file content time =>
      dsimp only at hs
      split at hs
      case isTrue hq => cases hs; exact ⟨⟨content, time, he⟩, hq⟩
      case isFalse   => contradiction
    case dir => cases hs
  case mpr =>
    rintro ⟨⟨content, time, he⟩, hq⟩
    exact ⟨_, he, if_pos hq⟩

theorem Sound.mem_dirNames_iff (hd : d.Sound) (h : d.isDir root) : name ∈ d.dirNames keep root ↔
    IsName name ∧ d.isDir (root.child name) ∧ keep name := by
  rw [← and_assoc, ← hd.dir_mem_list_iff h, dirNames, List.mem_filterMap]
  constructor
  case mp =>
    rintro ⟨⟨found, _ | _⟩, he, hs⟩
    case file => cases hs
    case dir  =>
      dsimp only at hs
      split at hs
      case isTrue hk => cases hs; exact ⟨he, hk⟩
      case isFalse   => contradiction
  case mpr =>
    rintro ⟨he, hk⟩
    exact ⟨_, he, if_pos hk⟩

theorem isEntered_iff : isEntered name ↔ name ∉ excludedDirs := by
  simp [isEntered]

theorem Sound.pairwise_fileNames (hd : d.Sound) : (d.fileNames q root).Pairwise (· < ·) := by
  refine hd.pairwise_list.filterMap _ fun e e' h name hn name' hn' => ?_
  rcases e with ⟨a, _ | _⟩ <;> rcases e' with ⟨b, _ | _⟩ <;> simp_all

theorem Sound.pairwise_dirNames (hd : d.Sound) : (d.dirNames keep root).Pairwise (· < ·) := by
  refine hd.pairwise_list.filterMap _ fun e e' h name hn name' hn' => ?_
  rcases e with ⟨a, _ | _⟩ <;> rcases e' with ⟨b, _ | _⟩ <;> simp_all

theorem walk_succ : d.walk q (depth + 1) root =
    d.filesIn q root ++ (d.dirNames isEntered root).flatMap fun name => d.walk q depth (root.child name) := by
  rw [walk, dirNames]
  congr 1
  induction d.list root
  case nil           => rfl
  case cons e rest ih =>
    rcases e with ⟨name, _ | _⟩
    case file => exact ih
    case dir  =>
      rw [List.flatMap_cons, ih, List.filterMap_cons]
      by_cases h : excludedDirs.contains name
      case pos =>
        have hk : isEntered name = false := by rw [isEntered, h]; rfl
        simp only [h, hk, if_true, Bool.false_eq_true, if_false, List.nil_append]
      case neg =>
        have hk : isEntered name := by simpa [isEntered] using h
        simp only [h, hk, if_true, Bool.false_eq_true, if_false, List.flatMap_cons]

theorem Sound.walk_eq (hd : d.Sound) (h : d.isDir root) :
    d.walk q depth root = (d.namesBelow q depth root).map root.below := by
  induction depth generalizing root
  case zero          => rfl
  case succ depth ih =>
    rw [walk_succ, filesIn_eq h, namesBelow, List.map_append, List.map_map, List.map_flatMap]
    refine congrArg₂ _ rfl (List.flatMap_congr fun name hname => ?_)
    rw [ih ((hd.mem_dirNames_iff h).mp hname).right.left, List.map_map]
    exact List.map_congr_left fun names _ => Path.below_cons.symm

theorem cons_mem_namesBelow_iff : name :: names ∈ d.namesBelow q (depth + 1) root ↔
    name ∈ d.fileNames q root ∧ names = [] ∨
      name ∈ d.dirNames isEntered root ∧ names ∈ d.namesBelow q depth (root.child name) := by
  simp [namesBelow, eq_comm]

theorem ne_nil_of_mem_namesBelow (h : names ∈ d.namesBelow q depth root) : names ≠ [] := by
  rintro rfl
  cases depth
  case zero => cases h
  case succ => simp [namesBelow] at h

theorem Sound.pairwise_namesBelow (hd : d.Sound) : (d.namesBelow q depth root).Pairwise Before := by
  induction depth generalizing root
  case zero          => exact .nil
  case succ depth ih =>
    rw [namesBelow, List.pairwise_append]
    refine ⟨List.pairwise_map.mpr hd.pairwise_fileNames, ?deeper, ?first⟩
    case deeper =>
      refine List.pairwise_flatMap.mpr ⟨fun name _ => ?_, hd.pairwise_dirNames.imp fun {a b} h => ?_⟩
      · refine List.pairwise_map.mpr (ih.imp_of_mem fun hs ht h => ?_)
        exact (before_cons_iff (ne_nil_of_mem_namesBelow hs) (ne_nil_of_mem_namesBelow ht)).mpr (.inr ⟨rfl, h⟩)
      · intro s hs t ht
        obtain ⟨s', hs', rfl⟩ := List.mem_map.mp hs
        obtain ⟨t', ht', rfl⟩ := List.mem_map.mp ht
        exact (before_cons_iff (ne_nil_of_mem_namesBelow hs') (ne_nil_of_mem_namesBelow ht')).mpr (.inl h)
    case first =>
      intro s hs t ht
      obtain ⟨a, -, rfl⟩ := List.mem_map.mp hs
      obtain ⟨b, -, ht⟩ := List.mem_flatMap.mp ht
      obtain ⟨t', ht', rfl⟩ := List.mem_map.mp ht
      exact before_of_singleton (ne_nil_of_mem_namesBelow ht')

theorem listed_singleton_iff : Listed d q root [name] ↔
    IsName name ∧ d.isFile (root.child name) ∧ name ∉ excludedFiles ∧ q (root.child name) := by
  have hn : (root.child name).name = name := Path.name_below (List.cons_ne_nil name [])
  constructor
  case mp  =>
    rintro ⟨-, hp, hf, -, hx, hq⟩
    exact ⟨hp name (List.mem_singleton_self name), hf, hn ▸ hx, hq⟩
  case mpr =>
    rintro ⟨hname, hf, hx, hq⟩
    exact ⟨List.cons_ne_nil _ _, by simpa using hname, hf, by simp, hn.symm ▸ hx, hq⟩

theorem listed_cons_iff (h : names ≠ []) : Listed d q root (name :: names) ↔
    (IsName name ∧ d.isDir (root.child name) ∧ name ∉ excludedDirs) ∧ Listed d q (root.child name) names := by
  have hc : root.below (name :: names) = (root.child name).below names := Path.below_cons
  have hl : (name :: names).dropLast = name :: names.dropLast := List.dropLast_cons_of_ne_nil h
  constructor
  case mp  =>
    rintro ⟨-, hp, hf, he, ha⟩
    rw [hc] at hf ha
    rw [hl] at he
    have ⟨hname, hnames⟩ := List.forall_mem_cons.mp hp
    have ⟨hdir, hdirs⟩ := List.forall_mem_cons.mp he
    exact ⟨⟨hname, isDir_of_isFile_below hf hnames h, hdir⟩, h, hnames, hf, hdirs, ha⟩
  case mpr =>
    rintro ⟨⟨hname, -, hdir⟩, -, hnames, hf, hdirs, ha⟩
    exact ⟨List.cons_ne_nil _ _, List.forall_mem_cons.mpr ⟨hname, hnames⟩, hc ▸ hf,
      hl ▸ List.forall_mem_cons.mpr ⟨hdir, hdirs⟩, hc ▸ ha⟩

theorem Sound.mem_namesBelow_iff (hd : d.Sound) (h : d.isDir root) :
    names ∈ d.namesBelow q depth root ↔ Listed d q root names ∧ names.length ≤ depth := by
  induction depth generalizing root names
  case zero =>
    refine ⟨(nomatch ·), fun hl => ?_⟩
    exact absurd (List.length_eq_zero_iff.mp (Nat.le_zero.mp hl.right)) hl.left.nonempty
  case succ depth ih =>
    cases names
    case nil =>
      exact ⟨fun hm => absurd rfl (ne_nil_of_mem_namesBelow hm), fun hl => absurd rfl hl.left.nonempty⟩
    case cons name names =>
      rw [cons_mem_namesBelow_iff, hd.mem_fileNames_iff h, hd.mem_dirNames_iff h, isEntered_iff,
        List.length_cons, Nat.add_le_add_iff_right]
      by_cases hn : names = []
      case pos =>
        subst hn
        have hno : [] ∉ d.namesBelow q depth (root.child name) := fun hm => ne_nil_of_mem_namesBelow hm rfl
        simp [listed_singleton_iff, hno]
      case neg =>
        rw [listed_cons_iff hn]
        constructor
        case mp  =>
          rintro (⟨-, he⟩ | ⟨hdir, hm⟩)
          case inl => contradiction
          case inr =>
            have ⟨hl, hlen⟩ := (ih hdir.right.left).mp hm
            exact ⟨⟨hdir, hl⟩, hlen⟩
        case mpr =>
          rintro ⟨⟨hdir, hl⟩, hlen⟩
          exact .inr ⟨hdir, (ih hdir.right.left).mpr ⟨hl, hlen⟩⟩

theorem mem_keys_of_node? (hk : k ≠ []) (h : d.node? k = some n) : k ∈ d.entries.map Prod.fst := by
  rw [node?, if_neg hk] at h
  obtain ⟨e, hf, -⟩ := Option.map_eq_some_iff.mp h
  have he : e.1 = k := by simpa using List.find?_some hf
  exact he ▸ List.mem_map_of_mem (List.mem_of_find?_eq_some hf)

-- Whatever is on the way to a file has an entry.
theorem Listed.mem_keys (h : Listed d q root names) {i : Nat} (hi : i < names.length) :
    d.keyOf root ++ names.take (i + 1) ∈ d.entries.map Prod.fst := by
  obtain ⟨content, time, hs⟩ := isFile_iff_stat.mp h.file
  rw [← List.take_append_drop (i + 1) names] at hs
  obtain ⟨n, hs⟩ := exists_stat_of_append (fun name hname => h.proper name (List.mem_of_mem_drop hname)) hs
  have hn := node?_of_stat hs
  rw [keyOf_below fun name hname => h.proper name (List.mem_of_mem_take hname)] at hn
  refine mem_keys_of_node? (fun he => ?_) hn
  have hlen := congrArg List.length he
  simp only [List.length_append, List.length_take, List.length_nil] at hlen
  omega

-- The directories on the way differ, so that there are no more of them than entries.
theorem Listed.length_le (h : Listed d q root names) : names.length ≤ d.entries.length := by
  have hn : ((List.range names.length).map fun i => d.keyOf root ++ names.take (i + 1)).Nodup := by
    refine List.Nodup.map_on (fun i hi j hj he => ?_) List.nodup_range
    have hlen := congrArg List.length (List.append_cancel_left he)
    simp only [List.length_take, List.mem_range] at hlen hi hj
    omega
  have hs : ((List.range names.length).map fun i => d.keyOf root ++ names.take (i + 1)) ⊆ d.entries.map Prod.fst := by
    intro k hk
    obtain ⟨i, hi, rfl⟩ := List.mem_map.mp hk
    exact h.mem_keys (List.mem_range.mp hi)
  simpa using (List.Nodup.subperm hn hs).length_le

theorem Sound.filesIn_relisted (hd : d.Sound) (h : es.Perm d.entries) :
    (d.relisted es).filesIn q root = d.filesIn q root := by
  have hdir : (d.relisted es).isDir root = d.isDir root := by rw [isDir, isDir, hd.stat_relisted h]
  rw [filesIn, filesIn, hdir, hd.list_relisted h]

theorem Sound.walk_relisted (hd : d.Sound) (h : es.Perm d.entries) :
    (d.relisted es).walk q depth root = d.walk q depth root := by
  induction depth generalizing root
  case zero          => rfl
  case succ depth ih =>
    rw [walk_succ, walk_succ, hd.filesIn_relisted h, dirNames, hd.list_relisted h]
    simp only [ih]
    rfl

theorem Sound.filesBelow_relisted (hd : d.Sound) (h : es.Perm d.entries) :
    (d.relisted es).filesBelow q root = d.filesBelow q root := by
  have hdir : (d.relisted es).isDir root = d.isDir root := by rw [isDir, isDir, hd.stat_relisted h]
  rw [filesBelow, filesBelow, hdir, hd.walk_relisted h, show (d.relisted es).entries = es from rfl, h.length_eq]

theorem Sound.exists_filesBelow (hd : d.Sound) (q : Path → Bool) (root : Path) : ∃ found : List (List String),
    d.filesBelow q root = found.map root.below ∧ found.Pairwise Before ∧
      ∀ names, names ∈ found ↔ Listed d q root names := by
  rw [filesBelow]
  split
  case isTrue h =>
    refine ⟨_, hd.walk_eq h, hd.pairwise_namesBelow, fun names => ?_⟩
    rw [hd.mem_namesBelow_iff h, and_iff_left_of_imp]
    exact fun hl => Nat.le_succ_of_le hl.length_le
  case isFalse h =>
    refine ⟨[], rfl, .nil, fun names => ?_⟩
    exact ⟨(nomatch ·), fun hl => absurd (isDir_of_isFile_below hl.file hl.proper hl.nonempty) h⟩

theorem Sound.exists_filesIn (hd : d.Sound) (q : Path → Bool) (root : Path) : ∃ found : List String,
    d.filesIn q root = found.map root.child ∧ found.Pairwise (· < ·) ∧
      ∀ name, name ∈ found ↔ Listed d q root [name] := by
  by_cases h : d.isDir root
  case pos =>
    refine ⟨_, filesIn_eq h, hd.pairwise_fileNames, fun name => ?_⟩
    rw [hd.mem_fileNames_iff h, listed_singleton_iff]
  case neg =>
    refine ⟨[], by rw [filesIn, if_neg h]; rfl, .nil, fun name => ?_⟩
    exact ⟨(nomatch ·), fun hl => absurd (isDir_of_isFile_below hl.file hl.proper hl.nonempty) h⟩

theorem file_tree_exact (hd : d.Sound) (q : Path → Bool) (root : Path) :
    (∃ found : List (List String), d.filesBelow q root = found.map root.below ∧ found.Pairwise Before ∧
      ∀ names, names ∈ found ↔ Listed d q root names) ∧
    (d.filesBelow q root).Nodup ∧
    (∃ found : List String, d.filesIn q root = found.map root.child ∧ found.Pairwise (· < ·) ∧
      ∀ name, name ∈ found ↔ Listed d q root [name]) ∧
    ∀ es, es.Perm d.entries →
      (d.relisted es).filesBelow q root = d.filesBelow q root ∧
      (d.relisted es).filesIn q root = d.filesIn q root := by
  have ⟨found, hf, hb, hm⟩ := hd.exists_filesBelow q root
  have hn : found.Nodup := hb.imp (S := (· ≠ ·)) fun h he => Before.irrefl _ (he ▸ h)
  refine ⟨⟨found, hf, hb, hm⟩, hf ▸ hn.map Path.below_injective, hd.exists_filesIn q root, fun es h => ?_⟩
  exact ⟨hd.filesBelow_relisted h, hd.filesIn_relisted h⟩

def rootDir : Path := ⟨.root, []⟩

-- A tree in no order, with files and a directory to pass over.
def scatteredTree : Disk where
  entries :=
    [(["b", "x.xml"], .file [] 0), (["a", "build", "x.xml"], .file [] 0), (["z.xml"], .file [] 0), (["b"], .dir),
     (["a", "b"], .dir), (["a"], .dir), (["a", "z.xml"], .file [] 0), (["a", "b", "x.xml"], .file [] 0),
     (["a", "build"], .dir), (["a", ".DS_Store"], .file [] 0), (["a.txt"], .file [] 0), (["B.xml"], .file [] 0)]

theorem scattered_tree_listed : scatteredTree.Sound ∧
    scatteredTree.filesBelow (hasExtension ["xml"]) rootDir =
      [["B.xml"], ["z.xml"], ["a", "z.xml"], ["a", "b", "x.xml"], ["b", "x.xml"]].map rootDir.below ∧
    (scatteredTree.relisted scatteredTree.entries.reverse).filesBelow (hasExtension ["xml"]) rootDir =
      scatteredTree.filesBelow (hasExtension ["xml"]) rootDir := by
  have hd : scatteredTree.Sound := by decide +kernel
  obtain ⟨-, -, -, hr⟩ := file_tree_exact hd (hasExtension ["xml"]) rootDir
  exact ⟨hd, by decide +kernel, (hr _ (List.reverse_perm _)).left⟩

end Disk

end TypedResources
