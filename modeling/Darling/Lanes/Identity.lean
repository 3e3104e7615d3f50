import Darling.Library.Points
import Mathlib.Data.List.Lex
import Mathlib.Data.List.Sort
import Mathlib.Order.Fin.Basic

/-! `tree_identity`: the digest of a tree is fed one record an entry, directory by directory in the order
of `os.walk`, the entries of each directory sorted. -/
namespace Darling.Identity

open Points (Point Text)

def slash : Point := 0x2F
def newline : Point := 0x0A

/-- A name in a directory. -/
@[ext]
structure Name where
  text : Text
  nonempty : text ≠ []
  whole : slash ∉ text
  plain : (0 : Point) ∉ text
  deriving DecidableEq

/-- What `os.lstat` says that the digest reads. -/
structure Stat where
  mode : Nat
  size : Nat
  mtimeNs : Int
  ino : Nat
  deriving DecidableEq, Repr

/-- `stat.S_ISLNK`. -/
def Stat.isLink (stat : Stat) : Bool := stat.mode &&& 0o170000 == 0o120000

/-- What a directory lets the process do: read its names, and look at what stands under them. -/
structure Access where
  list : Bool := true
  search : Bool := true
  deriving DecidableEq, Repr

/-- The entries of a directory in the order in which the system enumerates them. -/
inductive Tree where
  | nil
  | directory (name : Name) (stat : Stat) (access : Access) (entries : Tree) (rest : Tree)
  | link (name : Name) (stat : Stat) (target : Text) (rest : Tree)
  | other (name : Name) (stat : Stat) (rest : Tree)

abbrev Path := List Name

/-- The relative path of an entry, what it is and where it leads. -/
structure Entry where
  path : Path
  stat : Stat
  target : Text
  deriving DecidableEq

/-- `str(full.relative_to(root))`. -/
def Entry.relative (entry : Entry) : Text := [slash].intercalate (entry.path.map Name.text)

/-- A directory that `os.walk` yields. -/
structure Listed where
  path : Path
  access : Access
  tree : Tree

namespace Tree

def names : Tree → List Name
  | nil => []
  | directory name _ _ _ rest => name :: rest.names
  | link name _ _ rest => name :: rest.names
  | other name _ rest => name :: rest.names

/-- The entries of the directory at the path. -/
def entries (path : Path) : Tree → List Entry
  | nil => []
  | directory name stat _ _ rest => ⟨path ++ [name], stat, []⟩ :: rest.entries path
  | link name stat target rest => ⟨path ++ [name], stat, target⟩ :: rest.entries path
  | other name stat rest => ⟨path ++ [name], stat, []⟩ :: rest.entries path

/-- The directories below the one at the path. -/
def directories (path : Path) : Tree → List (Path × Tree)
  | nil => []
  | directory name _ _ entries rest =>
    (path ++ [name], entries) :: entries.directories (path ++ [name]) ++ rest.directories path
  | link _ _ _ rest => rest.directories path
  | other _ _ rest => rest.directories path

/-- The directories that `os.walk` yields below the one at the path: without `onerror` it passes over one that it cannot
list, with all that is in it. -/
def inside (path : Path) : Tree → List Listed
  | nil => []
  | directory name _ access entries rest =>
    (if access.list then ⟨path ++ [name], access, entries⟩ :: entries.inside (path ++ [name]) else [])
      ++ rest.inside path
  | link _ _ _ rest => rest.inside path
  | other _ _ rest => rest.inside path

/-- What a file system promises: no name twice in a directory, the kind in the mode, and for a link the
length of its target as the size. -/
def Sound : Tree → Prop
  | nil => True
  | directory name stat _ entries rest => name ∉ rest.names ∧ stat.isLink = false ∧ entries.Sound ∧ rest.Sound
  | link name stat target rest => name ∉ rest.names ∧ stat.isLink = true ∧ stat.size = target.byteLength ∧ rest.Sound
  | other name stat rest => name ∉ rest.names ∧ stat.isLink = false ∧ rest.Sound

end Tree

/-- A tree under a root. -/
structure Root where
  tree : Tree
  access : Access := {}
  sound : tree.Sound

/-- `sorted(entries)`: the relative paths differ, so nothing else is compared. -/
def sortEntries (entries : List Entry) : List Entry := entries.insertionSort fun first second =>
    first.relative ≤ second.relative

/-- What the digest is fed for an entry, without the line feed. -/
def Entry.record (entry : Entry) : Text :=
  [(0 : Point)].intercalate [entry.relative, Points.decimal entry.stat.mode, Points.decimal entry.stat.size,
    Points.decimal entry.stat.mtimeNs, Points.decimal entry.stat.ino, entry.target]

namespace Root

/-- `os.walk(root, topdown=True, followlinks=False)`. -/
def walk (root : Root) : List Listed :=
  if root.access.list then ⟨[], root.access, root.tree⟩ :: root.tree.inside [] else []

/-- The entries in the order in which the digest is fed. -/
def records (root : Root) : List Entry := root.walk.flatMap fun listed => sortEntries (listed.tree.entries listed.path)

/-- `os.lstat` succeeds for every name that the walk yields. -/
def searchable (root : Root) : Bool := root.walk.all fun listed => listed.access.search || listed.tree.names.isEmpty

/-- `tree_identity`, with the hash as a parameter. It fails on an entry that cannot be looked at and on a record
that has no encoding. -/
def treeIdentity (sha256 : List UInt8 → δ) (root : Root) : Option δ :=
  if root.searchable then do
    let chunks ← root.records.mapM fun entry => Points.encode entry.record
    return sha256 (chunks.flatMap (· ++ [0x0A]))
  else none

/-- The directories of the tree. -/
def directories (root : Root) : List (Path × Tree) := ([], root.tree) :: root.tree.directories []

/-- The tuples of the tree. -/
def tuples (root : Root) : List Entry := root.directories.flatMap fun (path, tree) => tree.entries path

/-- The tuples that the walk comes across. -/
def seen (root : Root) : List Entry := root.walk.flatMap fun listed => listed.tree.entries listed.path

/-- The directories that are listed and not empty, in the order in which they are met. -/
def met (root : Root) : List Path := (root.walk.filter fun listed => listed.tree.names ≠ []).map Listed.path

/-- The tuples in directories that the walk does not list. -/
def hidden (root : Root) : List Entry := root.tuples.filter fun entry => entry.path.dropLast ∉ root.met

/-- What the walk lists can be looked at, and its names and targets are UTF-8: none was decoded to a surrogate. -/
structure Readable (root : Root) : Prop where
  searchable : root.searchable = true
  utf8 : ∀ entry ∈ root.seen, (∀ name ∈ entry.path, ∀ point ∈ name.text, Points.isSurrogate point = false) ∧
    ∀ point ∈ entry.target, Points.isSurrogate point = false

end Root

def SameTuples (first second : Root) : Prop := ∀ entry, entry ∈ first.tuples ↔ entry ∈ second.tuples

/-- Two walks list the same directories, in the same order and with the same entries. -/
def SameWalk (first second : Root) : Prop := first.met = second.met ∧ ∀ entry, entry ∈ first.seen ↔ entry ∈ second.seen

/-- The digests of two trees are equal exactly when the trees have the same tuples. -/
def Exact (sha256 : List UInt8 → δ) (first second : Root) : Prop :=
  ∃ digest digest', first.treeIdentity sha256 = some digest ∧ second.treeIdentity sha256 = some digest' ∧
    (digest = digest' ↔ SameTuples first second)

section Decoding

theorem relative_injective {first second : Entry} (some : first.path ≠ []) (some' : second.path ≠ [])
    (same : first.relative = second.relative) : first.path = second.path := by
  have cut (entry : Entry) (some : entry.path ≠ []) : entry.relative.splitOn slash = entry.path.map Name.text := by
    apply List.splitOn_intercalate
    · simpa using fun name _ => name.whole
    · simpa using some
  have texts : first.path.map Name.text = second.path.map Name.text := by
    rw [← cut first some, ← cut second some', same]
  exact List.map_injective_iff.mpr (fun _ _ text => Name.ext text) texts

theorem nul_notMem_relative (entry : Entry) : (0 : Point) ∉ entry.relative := by
  have plain : ∀ point ∈ entry.relative, (0 : Point) ≠ point := by
    refine (Points.forall_mem_intercalate (by decide) _).mpr ?_
    simp only [List.forall_mem_map]
    rintro name _ point listed rfl
    exact name.plain listed
  exact fun listed => plain 0 listed rfl

theorem Entry.record_eq (entry : Entry) :
    entry.record = entry.relative ++ 0 :: (Points.decimal entry.stat.mode ++ 0 :: (Points.decimal entry.stat.size ++
      0 :: (Points.decimal entry.stat.mtimeNs ++ 0 :: (Points.decimal entry.stat.ino ++ 0 :: entry.target)))) := by
  simp [record, List.intercalate]

/-- An entry as the walk meets it. -/
structure Entry.Sound (entry : Entry) : Prop where
  below : entry.path ≠ []
  link : entry.stat.isLink = true → entry.stat.size = entry.target.byteLength
  plain : entry.stat.isLink = false → entry.target = []

/-- A field ends at its NUL. -/
theorem field_unique {first second rest others : Text} (plain : (0 : Point) ∉ first) (plain' : (0 : Point) ∉ second)
    (same : first ++ 0 :: rest = second ++ 0 :: others) : first = second ∧ rest = others := by
  induction first generalizing second with
  | nil =>
    cases second with
    | nil => exact ⟨rfl, (List.cons.inj same).2⟩
    | cons point second =>
      obtain ⟨rfl, _⟩ := List.cons.inj same
      simp at plain'
  | cons point first ih =>
    cases second with
    | nil =>
      obtain ⟨rfl, _⟩ := List.cons.inj same
      simp at plain
    | cons other second =>
      obtain ⟨rfl, later⟩ := List.cons.inj same
      rw [List.mem_cons, not_or] at plain plain'
      obtain ⟨rfl, tails⟩ := ih plain.2 plain'.2 later
      exact ⟨rfl, tails⟩

/-- What a record says is read off its beginning: the fields end at their NULs, and the target is as long
as the size says or missing. -/
theorem record_unique {first second : Entry} (sound : first.Sound) (sound' : second.Sound) {rest others : Text}
    (same : first.record ++ newline :: rest = second.record ++ newline :: others) : first = second ∧ rest = others := by
  rw [Entry.record_eq, Entry.record_eq] at same
  simp only [List.append_assoc, List.cons_append] at same
  obtain ⟨relative, same⟩ := field_unique (nul_notMem_relative first) (nul_notMem_relative second) same
  obtain ⟨mode, same⟩ := field_unique (Points.nul_notMem_decimal _) (Points.nul_notMem_decimal _) same
  obtain ⟨size, same⟩ := field_unique (Points.nul_notMem_decimal _) (Points.nul_notMem_decimal _) same
  obtain ⟨mtime, same⟩ := field_unique (Points.nul_notMem_decimal _) (Points.nul_notMem_decimal _) same
  obtain ⟨ino, same⟩ := field_unique (Points.nul_notMem_decimal _) (Points.nul_notMem_decimal _) same
  have path := relative_injective sound.below sound'.below relative
  have stat : first.stat = second.stat := by
    have mode := Int.ofNat.inj (Points.decimal_injective mode)
    have size := Int.ofNat.inj (Points.decimal_injective size)
    have mtime := Points.decimal_injective mtime
    have ino := Int.ofNat.inj (Points.decimal_injective ino)
    cases h : first.stat
    cases h' : second.stat
    simp_all
  have length : first.target.byteLength = second.target.byteLength := by
    cases kind : first.stat.isLink with
    | true => rw [← sound.link kind, ← sound'.link (stat ▸ kind), stat]
    | false => rw [sound.plain kind, sound'.plain (stat ▸ kind)]
  obtain ⟨target, tails⟩ := Points.eq_of_byteLength same length
  refine ⟨?_, (List.cons.inj tails).2⟩
  cases first
  cases second
  simp_all

end Decoding

section Streams

def Entry.line (entry : Entry) : Text := entry.record ++ [newline]

/-- A stream of records is the records of one list only. -/
theorem lines_unique {first second : List Entry} (sound : ∀ entry ∈ first, entry.Sound)
    (sound' : ∀ entry ∈ second, entry.Sound)
    (same : first.flatMap Entry.line = second.flatMap Entry.line) : first = second := by
  induction first generalizing second with
  | nil =>
    cases second with
    | nil => rfl
    | cons entry others => simp [Entry.line] at same
  | cons entry first ih =>
    cases second with
    | nil => simp [Entry.line] at same
    | cons other second =>
      rw [List.forall_mem_cons] at sound sound'
      simp only [List.flatMap_cons, Entry.line, List.append_assoc, List.singleton_append] at same
      obtain ⟨rfl, later⟩ := record_unique sound.1 sound'.1 same
      rw [ih sound.2 sound'.2 later]

/-- The bytes that the digest is fed are the encoding of the lines. -/
theorem encode_lines {entries : List Entry} {chunks : List (List UInt8)}
    (encoded : entries.mapM (fun entry => Points.encode entry.record) = some chunks) :
    Points.encode (entries.flatMap Entry.line) = some (chunks.flatMap (· ++ [0x0A])) := by
  induction entries generalizing chunks with
  | nil =>
    obtain rfl : chunks = [] := by simpa using encoded.symm
    rfl
  | cons entry entries ih =>
    simp only [List.mapM_cons, Option.bind_eq_bind, Option.bind_eq_some_iff, Option.pure_def,
      Option.some.injEq] at encoded
    obtain ⟨chunk, here, rest, later, rfl⟩ := encoded
    have ended : Points.encode [newline] = some [0x0A] := by decide
    rw [List.flatMap_cons, List.flatMap_cons, Entry.line, Points.encode_append, Points.encode_append, here,
      ended, ih later]
    simp

theorem record_encodes (entry : Entry) :
    (Points.encode entry.record).isSome ↔ (∀ name ∈ entry.path, ∀ point ∈ name.text, Points.isSurrogate point = false) ∧
      ∀ point ∈ entry.target, Points.isSurrogate point = false := by
  have decimal := Points.surrogate_notMem_decimal
  rw [Points.encode_isSome, Entry.record, Points.forall_mem_intercalate (by decide)]
  simp only [List.forall_mem_cons, List.not_mem_nil, false_implies, implies_true, and_true]
  rw [Entry.relative, Points.forall_mem_intercalate (by decide), List.forall_mem_map]
  constructor
  · exact fun ⟨path, _, _, _, _, target⟩ => ⟨path, target⟩
  · exact fun ⟨path, target⟩ => ⟨path, decimal _, decimal _, decimal _, decimal _, target⟩

theorem mapM_isSome {entries : List Entry} :
    (entries.mapM fun entry => Points.encode entry.record).isSome ↔ ∀ entry ∈ entries,
      (Points.encode entry.record).isSome := by
  induction entries with
  | nil => simp
  | cons entry entries ih =>
    rw [List.forall_mem_cons, ← ih, List.mapM_cons]
    cases Points.encode entry.record <;> cases entries.mapM (fun entry => Points.encode entry.record) <;> simp

end Streams

section Walking

namespace Tree

variable {path : Path} {tree : Tree}

theorem entries_names : (tree.entries path).map Entry.path = tree.names.map (path ++ [·]) := by
  induction tree with
  | nil => rfl
  | directory name stat access _ rest _ ih => simp [entries, names, ih]
  | link name stat target rest ih => simp [entries, names, ih]
  | other name stat rest ih => simp [entries, names, ih]

theorem names_nodup (sound : tree.Sound) : tree.names.Nodup := by
  induction tree with
  | nil => simp [names]
  | directory name stat access _ rest _ ih => exact List.nodup_cons.mpr ⟨sound.1, ih sound.2.2.2⟩
  | link name stat target rest ih => exact List.nodup_cons.mpr ⟨sound.1, ih sound.2.2.2⟩
  | other name stat rest ih => exact List.nodup_cons.mpr ⟨sound.1, ih sound.2.2⟩

theorem entries_sound (sound : tree.Sound) : ∀ entry ∈ tree.entries path, entry.Sound := by
  induction tree with
  | nil => simp [entries]
  | directory name stat access _ rest _ ih =>
    exact List.forall_mem_cons.mpr ⟨⟨by simp, by simp [sound.2.1], fun _ => rfl⟩, ih sound.2.2.2⟩
  | link name stat target rest ih =>
    exact List.forall_mem_cons.mpr ⟨⟨by simp, fun _ => sound.2.2.1, by simp [sound.2.1]⟩, ih sound.2.2.2⟩
  | other name stat rest ih =>
    exact List.forall_mem_cons.mpr ⟨⟨by simp, by simp [sound.2.1], fun _ => rfl⟩, ih sound.2.2⟩

theorem directories_sound (sound : tree.Sound) : ∀ met ∈ tree.directories path, met.2.Sound := by
  induction tree generalizing path with
  | nil => simp [directories]
  | directory name stat access entries rest ihEntries ihRest =>
    simp only [directories, List.cons_append, List.forall_mem_cons, List.forall_mem_append]
    exact ⟨sound.2.2.1, ihEntries sound.2.2.1, ihRest sound.2.2.2⟩
  | link name stat target rest ih => exact ih sound.2.2.2
  | other name stat rest ih => exact ih sound.2.2

/-- A directory below stands under one of the names. -/
theorem directories_under : ∀ met ∈ tree.directories path, ∃ name ∈ tree.names, path ++ [name] <+: met.1 := by
  induction tree generalizing path with
  | nil => simp [directories]
  | directory name stat access entries rest ihEntries ihRest =>
    simp only [directories, List.cons_append, List.forall_mem_cons, List.forall_mem_append, names,
      List.exists_mem_cons_iff]
    refine ⟨.inl (List.prefix_refl _), ?_, fun met listed => .inr (ihRest met listed)⟩
    intro met listed
    obtain ⟨_, _, under⟩ := ihEntries met listed
    exact .inl ((List.prefix_append _ _).trans under)
  | link name stat target rest ih =>
    intro met listed
    obtain ⟨other, found, under⟩ := ih met listed
    exact ⟨other, List.mem_cons_of_mem _ found, under⟩
  | other name stat rest ih =>
    intro met listed
    obtain ⟨other, found, under⟩ := ih met listed
    exact ⟨other, List.mem_cons_of_mem _ found, under⟩

/-- No directory stands at two paths. -/
theorem directories_nodup (sound : tree.Sound) : ((tree.directories path).map (·.1)).Nodup := by
  induction tree generalizing path with
  | nil => simp [directories]
  | directory name stat access entries rest ihEntries ihRest =>
    have apart {q : Path} (here : path ++ [name] <+: q) : q ∉ (rest.directories path).map (·.1) := by
      intro listed
      obtain ⟨met, found, rfl⟩ := List.mem_map.mp listed
      obtain ⟨other, named, under⟩ := directories_under met found
      have same := (List.prefix_of_prefix_length_le here under (by simp)).eq_of_length (by simp)
      obtain rfl : name = other := by simpa using same
      exact sound.1 named
    simp only [directories, List.cons_append, List.map_cons, List.map_append, List.nodup_cons, List.nodup_append,
      List.mem_append,
      not_or]
    refine ⟨⟨?_, apart (List.prefix_refl _)⟩, ihEntries sound.2.2.1, ihRest sound.2.2.2, ?_⟩
    · intro listed
      obtain ⟨met, found, same⟩ := List.mem_map.mp listed
      obtain ⟨_, _, under⟩ := directories_under met found
      have longer := under.length_le
      rw [same] at longer
      simp at longer
    · rintro q listed _ listed' rfl
      obtain ⟨met, found, rfl⟩ := List.mem_map.mp listed
      obtain ⟨_, _, under⟩ := directories_under met found
      exact apart ((List.prefix_append _ _).trans under) listed'
  | link name stat target rest ih => exact ih sound.2.2.2
  | other name stat rest ih => exact ih sound.2.2

/-- The walk yields directories of the tree, in its order. -/
theorem inside_sublist : ((tree.inside path).map fun listed => (listed.path, listed.tree)).Sublist
    (tree.directories path) := by
  induction tree generalizing path with
  | nil => exact .slnil
  | directory name stat access entries rest ihEntries ihRest =>
    rw [inside, directories, List.map_append]
    refine List.Sublist.append ?_ ihRest
    split
    · exact ihEntries.cons_cons _
    · exact List.nil_sublist _
  | link name stat target rest ih => exact ih
  | other name stat rest ih => exact ih

end Tree

end Walking

section Listings

/-- Only one item of a list with distinct keys has the key. -/
theorem flatMap_key {α β γ : Type} [DecidableEq α] {items : List (α × β)} {key : α} {value : β}
    (distinct : (items.map (·.1)).Nodup) (listed : (key, value) ∈ items) (visit : α × β → List γ) :
    (items.flatMap fun item => if item.1 = key then visit item else []) = visit (key, value) := by
  have absent {others : List (α × β)} (none : key ∉ others.map (·.1)) :
      (others.flatMap fun item => if item.1 = key then visit item else []) = [] := by
    refine List.flatMap_eq_nil_iff.mpr fun item found => if_neg ?_
    rintro rfl
    exact none (List.mem_map_of_mem found)
  induction items with
  | nil => simp at listed
  | cons item items ih =>
    rw [List.map_cons, List.nodup_cons] at distinct
    rw [List.flatMap_cons]
    rcases List.mem_cons.mp listed with rfl | later
    · rw [if_pos rfl, absent distinct.1, List.append_nil]
    · have other : item.1 ≠ key := by
        rintro rfl
        exact distinct.1 (List.mem_map.mpr ⟨_, later, rfl⟩)
      rw [if_neg other, ih distinct.2 later, List.nil_append]

namespace Root

variable (root : Root)

/-- What the walk comes across in one directory, sorted. -/
def listing (path : Path) : List Entry := sortEntries (root.seen.filter fun entry => entry.path.dropLast = path)

theorem directories_sound : ∀ directory ∈ root.directories, directory.2.Sound :=
  List.forall_mem_cons.mpr ⟨root.sound, Tree.directories_sound root.sound⟩

theorem directories_nodup : (root.directories.map (·.1)).Nodup := by
  refine List.nodup_cons.mpr ⟨?_, Tree.directories_nodup root.sound⟩
  intro listed
  obtain ⟨directory, found, top⟩ := List.mem_map.mp listed
  obtain ⟨_, _, under⟩ := Tree.directories_under directory found
  rw [top] at under
  simp at under

theorem walk_sublist : (root.walk.map fun listed => (listed.path, listed.tree)).Sublist root.directories := by
  rw [walk, directories]
  split
  · exact Tree.inside_sublist.cons_cons _
  · exact List.nil_sublist _

theorem walk_directory {listed : Listed} (found : listed ∈ root.walk) : (listed.path, listed.tree) ∈ root.directories :=
  root.walk_sublist.subset (List.mem_map.mpr ⟨listed, found, rfl⟩)

theorem walk_nodup : (root.walk.map Listed.path).Nodup := by
  have distinct := (root.walk_sublist.map Prod.fst).nodup root.directories_nodup
  rwa [List.map_map] at distinct

theorem seen_tuples {entry : Entry} (listed : entry ∈ root.seen) : entry ∈ root.tuples := by
  obtain ⟨met, found, here⟩ := List.mem_flatMap.mp listed
  exact List.mem_flatMap.mpr ⟨_, root.walk_directory found, here⟩

theorem tuples_sound : ∀ entry ∈ root.tuples, entry.Sound := by
  intro entry listed
  obtain ⟨directory, found, here⟩ := List.mem_flatMap.mp listed
  exact Tree.entries_sound (root.directories_sound directory found) entry here

theorem entries_parent {path : Path} {tree : Tree} {entry : Entry} (listed : entry ∈ tree.entries path) :
    entry.path.dropLast = path := by
  have found := List.mem_map_of_mem (f := Entry.path) listed
  rw [Tree.entries_names] at found
  obtain ⟨name, _, same⟩ := List.mem_map.mp found
  rw [← same, List.dropLast_concat]

/-- The walk comes across exactly the tuples of the directories it lists. -/
theorem mem_seen {entry : Entry} : entry ∈ root.seen ↔ entry ∈ root.tuples ∧ entry.path.dropLast ∈ root.met := by
  constructor
  · intro listed
    refine ⟨root.seen_tuples listed, ?_⟩
    obtain ⟨met, found, here⟩ := List.mem_flatMap.mp listed
    rw [entries_parent here]
    refine List.mem_map.mpr ⟨met, List.mem_filter.mpr ⟨found, ?_⟩, rfl⟩
    have named := List.mem_map_of_mem (f := Entry.path) here
    rw [Tree.entries_names] at named
    obtain ⟨name, known, _⟩ := List.mem_map.mp named
    simpa using List.ne_nil_of_mem known
  · rintro ⟨tuple, listed⟩
    obtain ⟨directory, there, here⟩ := List.mem_flatMap.mp tuple
    obtain ⟨met, found, path⟩ := List.mem_map.mp listed
    have found := List.mem_of_mem_filter found
    rw [entries_parent here] at path
    have same := List.inj_on_of_nodup_map root.directories_nodup (root.walk_directory found) there path
    refine List.mem_flatMap.mpr ⟨met, found, ?_⟩
    rw [← same] at here
    exact here

/-- The paths of the tuples that the walk comes across differ. -/
theorem seen_nodup : (root.seen.map Entry.path).Nodup := by
  rw [seen, List.map_flatMap]
  simp only [Tree.entries_names]
  refine List.nodup_flatMap.mpr ⟨?_, ?_⟩
  · intro met found
    refine (Tree.names_nodup (root.directories_sound _ (root.walk_directory found))).map ?_
    intro first second same
    simpa using same
  · refine (List.pairwise_map.mp root.walk_nodup).imp ?_
    intro first second apart path listed listed'
    obtain ⟨_, _, rfl⟩ := List.mem_map.mp listed
    obtain ⟨_, _, same⟩ := List.mem_map.mp listed'
    exact apart (List.append_inj_left' same rfl).symm

/-- What is seen with the path of a listed directory as its parent are the entries of that directory. -/
theorem filter_seen {met : Listed} (found : met ∈ root.walk) :
    (root.seen.filter fun entry => entry.path.dropLast = met.path) = met.tree.entries met.path := by
  have keyed : ((root.walk.map fun listed => (listed.path, listed)).map (·.1)).Nodup := by
    rw [List.map_map]
    exact root.walk_nodup
  have only := flatMap_key keyed (List.mem_map.mpr ⟨met, found, rfl⟩) fun item => item.2.tree.entries item.2.path
  rw [List.flatMap_map] at only
  rw [seen, List.filter_flatMap, ← only]
  congr 1
  funext other
  by_cases here : other.path = met.path
  · rw [if_pos here, List.filter_eq_self]
    intro entry listed
    simpa [here] using entries_parent listed
  · rw [if_neg here, List.filter_eq_nil_iff]
    intro entry listed
    simpa [entries_parent listed] using here

/-- The digest is fed the directories that are listed and not empty, one after the other. -/
theorem records_eq : root.records = root.met.flatMap root.listing := by
  have listed : ∀ met ∈ root.walk, sortEntries (met.tree.entries met.path) = root.listing met.path :=
    fun met found => by rw [listing, root.filter_seen found]
  have empty : ∀ met ∈ root.walk, met.tree.names = [] → root.listing met.path = [] := by
    intro met found none
    have entries : (met.tree.entries met.path).map Entry.path = [] := by rw [Tree.entries_names, none, List.map_nil]
    rw [listing, root.filter_seen found, List.map_eq_nil_iff.mp entries]
    rfl
  rw [records, met, List.flatMap_map]
  generalize root.walk = walk at listed empty
  induction walk with
  | nil => rfl
  | cons met walk ih =>
    rw [List.forall_mem_cons] at listed empty
    rw [List.flatMap_cons, ih listed.2 empty.2]
    by_cases none : met.tree.names = []
    · rw [List.filter_cons_of_neg (by simpa using none)]
      simp only [listed.1, empty.1 none, List.nil_append]
    · rw [List.filter_cons_of_pos (by simpa using none), List.flatMap_cons]
      simp only [listed.1]

variable {root} {first second : Root}

/-- What is seen is sorted to the same listings, whatever the order of the enumeration. -/
theorem listing_congr (same : ∀ entry, entry ∈ first.seen ↔ entry ∈ second.seen) : first.listing = second.listing := by
  funext path
  have permuted : (first.seen.filter fun entry => entry.path.dropLast = path).Perm
      (second.seen.filter fun entry => entry.path.dropLast = path) := by
    refine List.Perm.filter _ ((List.perm_ext_iff_of_nodup first.seen_nodup.of_map second.seen_nodup.of_map).mpr same)
  have sorted (entries : List Entry) : (sortEntries entries).Pairwise fun first second =>
      first.relative ≤ second.relative := by
    have : Std.Total fun first second : Entry => first.relative ≤ second.relative := ⟨fun _ _ => le_total _ _⟩
    have : IsTrans Entry fun first second => first.relative ≤ second.relative := ⟨fun _ _ _ => le_trans⟩
    exact List.pairwise_insertionSort _ _
  refine List.Perm.eq_of_pairwise ?_ (sorted _) (sorted _) (((List.perm_insertionSort _ _).trans permuted).trans
    (List.perm_insertionSort _ _).symm)
  intro entry other listed listed' below above
  have here : entry ∈ first.seen := by
    rw [listing, sortEntries, List.mem_insertionSort] at listed
    exact List.mem_of_mem_filter listed
  have here' : other ∈ first.seen := by
    rw [listing, sortEntries, List.mem_insertionSort] at listed'
    exact (same other).mpr (List.mem_of_mem_filter listed')
  have relative : entry.relative = other.relative := le_antisymm below above
  have paths := relative_injective (first.tuples_sound entry (first.seen_tuples here)).below
    (first.tuples_sound other (first.seen_tuples here')).below relative
  exact List.inj_on_of_nodup_map first.seen_nodup here here' paths

end Root

end Listings

section Digests

variable {δ : Type} {sha256 : List UInt8 → δ} {root first second : Root}

theorem Root.mem_records {entry : Entry} : entry ∈ root.records ↔ entry ∈ root.seen := by
  simp [Root.records, Root.seen, sortEntries]

theorem Root.listing_home {path : Path} {entry : Entry} (listed : entry ∈ root.listing path) :
    entry.path.dropLast = path := by
  rw [Root.listing, sortEntries, List.mem_insertionSort, List.mem_filter] at listed
  simpa using listed.2

theorem Root.listing_some : ∀ path ∈ root.met, root.listing path ≠ [] := by
  intro path listed none
  obtain ⟨met, found, rfl⟩ := List.mem_map.mp listed
  obtain ⟨walked, some⟩ := List.mem_filter.mp found
  have entries : met.tree.entries met.path = [] := by
    rwa [Root.listing, root.filter_seen walked, ← List.length_eq_zero_iff, sortEntries, List.length_insertionSort,
      List.length_eq_zero_iff] at none
  have names : met.tree.names.map (met.path ++ [·]) = [] := by
    rw [← Tree.entries_names, entries, List.map_nil]
  simp [List.map_eq_nil_iff.mp names] at some

/-- The entries say in which order the directories were met. -/
theorem met_unique {visit : Path → List Entry} {paths others : List Path} (some : ∀ path ∈ paths, visit path ≠ [])
    (some' : ∀ path ∈ others, visit path ≠ []) (home : ∀ path, ∀ entry ∈ visit path, entry.path.dropLast = path)
    (same : paths.flatMap visit = others.flatMap visit) : paths = others := by
  induction paths generalizing others with
  | nil =>
    cases others with
    | nil => rfl
    | cons path others =>
      have empty : visit path = [] := (List.append_eq_nil_iff.mp same.symm).1
      exact absurd empty (some' path (by simp))
  | cons path paths ih =>
    rw [List.forall_mem_cons] at some
    obtain ⟨entry, rest, listed⟩ := List.exists_cons_of_ne_nil some.1
    cases others with
    | nil => simp [listed] at same
    | cons other others =>
      rw [List.forall_mem_cons] at some'
      obtain ⟨entry', rest', listed'⟩ := List.exists_cons_of_ne_nil some'.1
      have heads : entry = entry' := by simpa [listed, listed'] using congrArg List.head? same
      obtain rfl : path = other := by
        rw [← home path entry (by simp [listed]), heads, home other entry' (by simp [listed'])]
      rw [ih some.2 some'.2 (List.append_cancel_left same)]

theorem Root.readable_iff : root.Readable ↔ root.searchable = true ∧
    ∀ entry ∈ root.seen, (∀ name ∈ entry.path, ∀ point ∈ name.text, Points.isSurrogate point = false) ∧
      ∀ point ∈ entry.target, Points.isSurrogate point = false :=
  ⟨fun readable => ⟨readable.searchable, readable.utf8⟩, fun both => ⟨both.1, both.2⟩⟩

/-- There is a digest exactly when what the walk lists can be read. -/
theorem treeIdentity_isSome : (root.treeIdentity sha256).isSome ↔ root.Readable := by
  have encoded : (root.records.mapM fun entry => Points.encode entry.record).isSome ↔
      ∀ entry ∈ root.seen, (∀ name ∈ entry.path, ∀ point ∈ name.text, Points.isSurrogate point = false) ∧
        ∀ point ∈ entry.target, Points.isSurrogate point = false := by
    rw [mapM_isSome]
    simp only [Root.mem_records, record_encodes]
  rw [Root.readable_iff, ← encoded, Root.treeIdentity]
  cases root.searchable with
  | false => simp
  | true => cases root.records.mapM fun entry => Points.encode entry.record <;> simp

theorem treeIdentity_eq {digest : δ} (found : root.treeIdentity sha256 = some digest) :
    ∃ bytes, Points.encode (root.records.flatMap Entry.line) = some bytes ∧ sha256 bytes = digest := by
  rw [Root.treeIdentity] at found
  split at found
  · simp only [Option.bind_eq_bind, Option.bind_eq_some_iff, Option.pure_def, Option.some.injEq] at found
    obtain ⟨chunks, encoded, digested⟩ := found
    exact ⟨_, encode_lines encoded, digested⟩
  · cases found

/-- Equal digests are digests of the same records in the same order. -/
theorem digest_eq_iff (free : Function.Injective sha256) {digest digest' : δ}
    (found : first.treeIdentity sha256 = some digest)
    (found' : second.treeIdentity sha256 = some digest') : digest = digest' ↔ first.records = second.records := by
  obtain ⟨bytes, encoded, rfl⟩ := treeIdentity_eq found
  obtain ⟨bytes', encoded', rfl⟩ := treeIdentity_eq found'
  constructor
  · intro same
    rw [← free same] at encoded'
    refine lines_unique ?_ ?_ (Points.encode_injective encoded encoded')
    · exact fun entry listed => first.tuples_sound entry (first.seen_tuples (Root.mem_records.mp listed))
    · exact fun entry listed => second.tuples_sound entry (second.seen_tuples (Root.mem_records.mp listed))
  · intro same
    rw [same] at encoded
    rw [Option.some.inj (encoded.symm.trans encoded')]

/-- The same records are fed exactly by walks that list the same. -/
theorem records_eq_iff : first.records = second.records ↔ SameWalk first second := by
  constructor
  · intro same
    have seen : ∀ entry, entry ∈ first.seen ↔ entry ∈ second.seen := fun entry => by
      rw [← Root.mem_records, ← Root.mem_records, same]
    refine ⟨?_, seen⟩
    rw [first.records_eq, second.records_eq, ← Root.listing_congr seen] at same
    refine met_unique first.listing_some ?_ (fun path entry => Root.listing_home) same
    rw [Root.listing_congr seen]
    exact second.listing_some
  · rintro ⟨met, seen⟩
    rw [first.records_eq, second.records_eq, met, Root.listing_congr seen]

/-- Where the walks meet the same directories, the tuples are what is seen and what is hidden. -/
theorem sameTuples_iff (met : first.met = second.met) :
    SameTuples first second ↔ SameWalk first second ∧ ∀ entry, entry ∈ first.hidden ↔ entry ∈ second.hidden := by
  simp only [SameWalk, SameTuples, Root.mem_seen, Root.hidden, List.mem_filter, decide_eq_true_eq, met, true_and]
  constructor
  · exact fun same => ⟨fun entry => by rw [same entry], fun entry => by rw [same entry]⟩
  · rintro ⟨seen, hidden⟩ entry
    by_cases listed : entry.path.dropLast ∈ second.met
    · simpa [listed] using seen entry
    · simpa [listed] using hidden entry

/-- Two digests are equal exactly for the same tuples if and only if what the walks list can be read, two walks over
the same tuples meet the same directories in the same order, and two walks that list the same leave out the same. -/
theorem treeIdentity_exact (free : Function.Injective sha256) (first second : Root) :
    Exact sha256 first second ↔ first.Readable ∧ second.Readable ∧ (SameTuples first second → first.met = second.met) ∧
      (SameWalk first second → ∀ entry, entry ∈ first.hidden ↔ entry ∈ second.hidden) := by
  constructor
  · rintro ⟨digest, digest', found, found', exact_⟩
    rw [digest_eq_iff free found found', records_eq_iff] at exact_
    refine ⟨treeIdentity_isSome.mp (by rw [found]; rfl), treeIdentity_isSome.mp (by rw [found']; rfl), ?_, ?_⟩
    · exact fun same => (exact_.mpr same).1
    · exact fun same => ((sameTuples_iff same.1).mp (exact_.mp same)).2
  · rintro ⟨readable, readable', met, hidden⟩
    obtain ⟨digest, found⟩ := Option.isSome_iff_exists.mp (treeIdentity_isSome.mpr readable)
    obtain ⟨digest', found'⟩ := Option.isSome_iff_exists.mp (treeIdentity_isSome.mpr readable')
    refine ⟨digest, digest', found, found', ?_⟩
    rw [digest_eq_iff free found found', records_eq_iff]
    constructor
    · exact fun same => (sameTuples_iff same.1).mpr ⟨same, hidden same⟩
    · exact fun same => ((sameTuples_iff (met same)).mp same).1

def letter (char : Char) (known : Points.pointOf char ≠ slash ∧ (0 : Point) ≠ Points.pointOf char) : Name where
  text := [Points.pointOf char]
  nonempty := by simp
  whole := by simpa using known.1.symm
  plain := by simpa using known.2

/-- The directories `a` and `b` with one file each, as enumerated in this order. -/
def abTree : Tree :=
  .directory (letter 'a' (by decide)) ⟨0o40755, 4096, 1, 2⟩ {}
    (.other (letter 'x' (by decide)) ⟨0o100644, 5, 1, 3⟩ .nil)
    (.directory (letter 'b' (by decide)) ⟨0o40755, 4096, 1, 4⟩ {}
      (.other (letter 'y' (by decide)) ⟨0o100644, 6, 1, 5⟩ .nil) .nil)

/-- The same tree, enumerated in the other order. -/
def baTree : Tree :=
  .directory (letter 'b' (by decide)) ⟨0o40755, 4096, 1, 4⟩ {}
    (.other (letter 'y' (by decide)) ⟨0o100644, 6, 1, 5⟩ .nil)
    (.directory (letter 'a' (by decide)) ⟨0o40755, 4096, 1, 2⟩ {}
      (.other (letter 'x' (by decide)) ⟨0o100644, 5, 1, 3⟩ .nil) .nil)

def ab : Root where
  tree := abTree
  sound := by
    simp only [abTree, Tree.Sound, Tree.names]
    decide

def ba : Root where
  tree := baTree
  sound := by
    simp only [baTree, Tree.Sound, Tree.names]
    decide

theorem ab_exact : Function.Injective (id : List UInt8 → List UInt8) ∧ Exact id ab ab := by
  have every : (ab.seen.all fun entry => entry.path.all (fun name => name.text.all (!Points.isSurrogate ·)) &&
      entry.target.all (!Points.isSurrogate ·)) = true := by decide
  have readable : ab.Readable := ⟨by decide, by simpa using every⟩
  refine ⟨Function.injective_id, (treeIdentity_exact Function.injective_id ab ab).mpr ⟨readable, readable, ?_, ?_⟩⟩
  · exact fun _ => rfl
  · exact fun _ entry => Iff.rfl

/-- The directory `a`, which cannot be listed, with a file of the size. -/
def lockedTree (size : Nat) : Tree :=
  .directory (letter 'a' (by decide)) ⟨0o40000, 4096, 1, 2⟩ ⟨false, false⟩
    (.other (letter 'x' (by decide)) ⟨0o100644, size, 1, 3⟩ .nil) .nil

def locked (size : Nat) : Root where
  tree := lockedTree size
  sound := by
    simp [lockedTree, Tree.Sound, Tree.names, Stat.isLink]

/-- No collision-free hash makes the digest of `ab` independent of the enumeration, and none notices that the file in a
directory that cannot be listed has grown. -/
theorem ab_ba_differ :
    (SameTuples ab ba ∧ ∀ sha256 : List UInt8 → List UInt8, Function.Injective sha256 → ¬Exact sha256 ab ba) ∧
      ¬SameTuples (locked 3) (locked 4) ∧
        ∀ sha256 : List UInt8 → List UInt8, (locked 3).treeIdentity sha256 = (locked 4).treeIdentity sha256 := by
  have permuted : ab.tuples.Perm ba.tuples := by decide
  have reordered : ab.records ≠ ba.records := by decide
  have same : SameTuples ab ba := fun entry => permuted.mem_iff
  refine ⟨⟨same, ?_⟩, ?_, fun sha256 => rfl⟩
  · rintro sha256 free ⟨digest, digest', found, found', exact_⟩
    exact reordered ((digest_eq_iff free found found').mp (exact_.mpr same))
  · intro same
    have grown := (same ⟨[letter 'a' (by decide), letter 'x' (by decide)], ⟨0o100644, 3, 1, 3⟩, []⟩).mp (by decide)
    revert grown
    decide

end Digests

end Darling.Identity
