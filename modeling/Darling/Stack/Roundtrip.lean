import Darling.Library.Associations
import Darling.Stack.Members
import Darling.Stack.Confinement
import Darling.Stack.Growth

/-! A captured prefix comes back: the archive of its roots, extracted into an empty directory with its own
manifest, gives every member its kind, its bytes, its target and, to a file, the lower nine bits of its mode. -/
namespace Darling.Stack

open FileTrees

section Archive

/-- The member of the archive for a captured one. -/
def infoOf (item : Path Name × Tree) : TarInfo :=
  ⟨render item.1, match item.2 with
    | .file _ content mode => .regular (mode % 0o10000) (some (blocksOf content.length content))
    | .directory mode _ => .directory (mode % 0o10000)
    | .link target => .symlink target
    | .special => .other⟩

/-- Its value in the manifest. -/
def recordOf (digest : List UInt8 → Text) (item : Path Name × Tree) : Text × Recorded :=
  (render item.1, match item.2 with
    | .file _ content mode => .object (some "file".toList) none (some (digest content)) (some mode)
        (some content.length)
    | .directory mode _ => .object (some "directory".toList) none none (some mode) (some 0)
    | .link target => .object (some "symlink".toList) (some target) none none (some 0)
    | .special => .other)

/-- The members of a capture that can be brought back: what lies above a member is a directory, if it is a
member itself. -/
structure Listed (captured : List (Path Name × Tree)) : Prop where
  valid : ∀ item ∈ captured, ValidPath item.1
  distinct : (captured.map (·.1)).Nodup
  above : ∀ item ∈ captured, ∀ first rest, item.1 = first ++ rest → rest ≠ [] → ∀ tree, (first, tree) ∈ captured →
    ∃ mode children, tree = .directory mode children
  supported : ∀ item ∈ captured, item.2 ≠ .special
  targets : ∀ path target, (path, .link target) ∈ captured → target ≠ []

variable {captured : List (Path Name × Tree)}

theorem Listed.names (listed : Listed captured) : (captured.map fun item => render item.1).Nodup := by
  have mapped : (captured.map (·.1)).map render = captured.map fun item => render item.1 := by simp
  rw [← mapped]
  refine List.Nodup.map_on ?_ listed.distinct
  intro first one second two same
  obtain ⟨item, here, rfl⟩ := List.mem_map.mp one
  obtain ⟨other, there, rfl⟩ := List.mem_map.mp two
  exact render_injective (listed.valid item here) (listed.valid other there) same

theorem captureMember_ok (digest : List UInt8 → Text) (capturing : Capturing) (item : Path Name × Tree)
    (supported : item.2 ≠ .special) (fresh : render item.1 ∉ capturing.manifest.map (·.1)) :
    ∃ next, captureMember digest capturing item.1 item.2 = .ok next ∧
      next.archive = capturing.archive ++ [infoOf item] ∧
        next.manifest = capturing.manifest ++ [recordOf digest item] := by
  have kept (recorded : Recorded) : record capturing.manifest (render item.1) recorded =
      capturing.manifest ++ [(render item.1, recorded)] := by
    rw [record, List.filter_eq_self.mpr]
    intro other listed
    have different : other.1 ≠ render item.1 := fun same => fresh (same ▸ List.mem_map_of_mem listed)
    simpa using different
  obtain ⟨path, tree⟩ := item
  cases tree with
  | file inode content mode =>
    -- A second name of the file comes as a link, and is replaced by a file.
    have header : (getTarInfo capturing.inodes (.file inode content mode)).replaced = .regular mode := by
      rw [getTarInfo]
      split <;> rfl
    simp only [captureMember, header]
    exact ⟨_, rfl, rfl, kept _⟩
  | directory mode children => exact ⟨_, rfl, rfl, kept _⟩
  | link target => exact ⟨_, rfl, rfl, kept _⟩
  | special => exact absurd rfl supported

theorem captureMembers_ok (digest : List UInt8 → Text) (capturing : Capturing) (items : List (Path Name × Tree))
    (supported : ∀ item ∈ items, item.2 ≠ .special)
    (distinct : (capturing.manifest.map (·.1) ++ items.map fun item => render item.1).Nodup) :
    ∃ next, captureMembers digest capturing items = .ok next ∧ next.archive = capturing.archive ++ items.map infoOf ∧
      next.manifest = capturing.manifest ++ items.map (recordOf digest) := by
  induction items generalizing capturing with
  | nil => exact ⟨capturing, rfl, by simp, by simp⟩
  | cons item rest ih =>
    have fresh : render item.1 ∉ capturing.manifest.map (·.1) := by
      intro listed
      exact List.disjoint_of_nodup_append distinct listed List.mem_cons_self
    obtain ⟨next, added, archive, manifest⟩ :=
      captureMember_ok digest capturing item (supported item List.mem_cons_self) fresh
    have still : (next.manifest.map (·.1) ++ rest.map fun item => render item.1).Nodup := by
      rw [manifest, List.map_append, List.append_assoc]
      exact distinct
    obtain ⟨final, rest', archive', manifest'⟩ :=
      ih next (fun other listed => supported other (List.mem_cons_of_mem _ listed)) still
    refine ⟨final, ?_, ?_, ?_⟩
    · simp only [captureMembers, added, bind, Except.bind]
      exact rest'
    · rw [archive', archive, List.append_assoc]
      rfl
    · rw [manifest', manifest, List.append_assoc]
      rfl

def directoryPart : Path Name × Tree → Option (Path Name)
  | (path, .directory _ _) => some path
  | _ => none

def filePart : Path Name × Tree → Option (Path Name × Nat × Option (List (List UInt8)))
  | (path, .file _ content mode) => some (path, mode % 0o10000, some (blocksOf content.length content))
  | _ => none

def linkPart : Path Name × Tree → Option (Path Name × Text)
  | (path, .link target) => some (path, target)
  | _ => none

/-- What the inspection of the archive has collected of the captured members. -/
structure Inspected (items : List (Path Name × Tree)) (inspection : Inspection) : Prop where
  seen : inspection.seen.map (·.parts) = items.map (·.1)
  directories : inspection.directories.map (·.parts) = items.filterMap directoryPart
  regular : inspection.regular.map (fun file => (file.1.parts, file.2)) = items.filterMap filePart
  symlinks : inspection.symlinks.map (fun link => (link.1.parts, link.2)) = items.filterMap linkPart
  problems : inspection.problems = []

theorem Inspected.add {items : List (Path Name × Tree)} {inspection : Inspection}
    (inspected : Inspected items inspection)
    {item : Path Name × Tree} (valid : ValidPath item.1) (supported : item.2 ≠ .special)
    (target : ∀ target, item.2 = .link target → target ≠ []) :
    ∃ next, inspection.add (infoOf item) = .ok next ∧ Inspected (items ++ [item]) next := by
  obtain ⟨member, safe, parts⟩ := safeMember_render valid
  obtain ⟨path, tree⟩ := item
  obtain ⟨seen, directories, regular, symlinks, problems⟩ := inspected
  cases tree with
  | file inode content mode =>
    refine ⟨_, by simp only [Inspection.add, infoOf, safe, bind, Except.bind]; rfl, ?_⟩
    constructor <;> simp_all [directoryPart, filePart, linkPart]
  | directory mode children =>
    refine ⟨_, by simp only [Inspection.add, infoOf, safe, bind, Except.bind]; rfl, ?_⟩
    constructor <;> simp_all [directoryPart, filePart, linkPart]
  | link linkname =>
    refine ⟨_, by simp only [Inspection.add, infoOf, safe, bind, Except.bind]; rfl, ?_⟩
    constructor <;> simp_all [directoryPart, filePart, linkPart]
  | special => exact absurd rfl supported

section Members

variable {items : List (Path Name × Tree)} {inspection : Inspection} (inspected : Inspected items inspection)

include inspected

theorem Inspected.directory {member : Member} (listed : member ∈ inspection.directories) :
    ∃ mode children, (member.parts, .directory mode children) ∈ items := by
  have part : member.parts ∈ items.filterMap directoryPart := inspected.directories ▸ List.mem_map_of_mem listed
  obtain ⟨⟨path, tree⟩, here, found⟩ := List.mem_filterMap.mp part
  cases tree with
  | directory mode children =>
    cases found
    exact ⟨mode, children, here⟩
  | _ => cases found

theorem Inspected.file {file : Member × Nat × Option (List (List UInt8))} (listed : file ∈ inspection.regular) :
    ∃ inode content mode, (file.1.parts, .file inode content mode) ∈ items ∧
      file.2 = (mode % 0o10000, some (blocksOf content.length content)) := by
  have part : (file.1.parts, file.2) ∈ items.filterMap filePart :=
    inspected.regular ▸ List.mem_map.mpr ⟨file, listed, rfl⟩
  obtain ⟨⟨path, tree⟩, here, found⟩ := List.mem_filterMap.mp part
  cases tree with
  | file inode content mode =>
    rw [filePart, Option.some.injEq, Prod.mk.injEq] at found
    obtain ⟨rfl, same⟩ := found
    exact ⟨inode, content, mode, here, same.symm⟩
  | _ => cases found

theorem Inspected.link {link : Member × Text} (listed : link ∈ inspection.symlinks) :
    (link.1.parts, .link link.2) ∈ items := by
  have part : (link.1.parts, link.2) ∈ items.filterMap linkPart :=
    inspected.symlinks ▸ List.mem_map.mpr ⟨link, listed, rfl⟩
  obtain ⟨⟨path, tree⟩, here, found⟩ := List.mem_filterMap.mp part
  cases tree with
  | link target =>
    rw [linkPart, Option.some.injEq, Prod.mk.injEq] at found
    obtain ⟨rfl, rfl⟩ := found
    exact here
  | _ => cases found

/-- Every member is extracted in one of the three passes. -/
theorem Inspected.every {path : Path Name} {tree : Tree} (listed : (path, tree) ∈ items) (supported : tree ≠ .special) :
    path ∈ inspection.directories.map (·.parts) ∨ path ∈ inspection.regular.map (·.1.parts) ∨
      path ∈ inspection.symlinks.map (·.1.parts) := by
  cases tree with
  | directory mode children =>
    refine .inl (inspected.directories ▸ ?_)
    exact List.mem_filterMap.mpr ⟨_, listed, rfl⟩
  | file inode content mode =>
    refine .inr (.inl ?_)
    have part : (path, mode % 0o10000, some (blocksOf content.length content)) ∈
        inspection.regular.map fun file => (file.1.parts, file.2) :=
      inspected.regular ▸ List.mem_filterMap.mpr ⟨_, listed, rfl⟩
    obtain ⟨file, among, same⟩ := List.mem_map.mp part
    exact List.mem_map.mpr ⟨file, among, congrArg Prod.fst same⟩
  | link target =>
    refine .inr (.inr ?_)
    have part : (path, target) ∈ inspection.symlinks.map fun link => (link.1.parts, link.2) :=
      inspected.symlinks ▸ List.mem_filterMap.mpr ⟨_, listed, rfl⟩
    obtain ⟨link, among, same⟩ := List.mem_map.mp part
    exact List.mem_map.mpr ⟨link, among, congrArg Prod.fst same⟩
  | special => exact absurd rfl supported

end Members

theorem inspect_captured {items rest : List (Path Name × Tree)} {inspection : Inspection}
    (inspected : Inspected items inspection) (valid : ∀ item ∈ rest, ValidPath item.1)
    (supported : ∀ item ∈ rest, item.2 ≠ .special) (targets : ∀ item ∈ rest, ∀ target, item.2 = .link target →
      target ≠ []) :
    ∃ final, inspect inspection (rest.map infoOf) = .ok final ∧ Inspected (items ++ rest) final := by
  induction rest generalizing items inspection with
  | nil => exact ⟨inspection, rfl, by simpa using inspected⟩
  | cons item rest ih =>
    obtain ⟨next, added, after⟩ := inspected.add (valid item List.mem_cons_self) (supported item List.mem_cons_self)
      (targets item List.mem_cons_self)
    obtain ⟨final, ran, ended⟩ := ih after (fun other listed => valid other (List.mem_cons_of_mem _ listed))
      (fun other listed => supported other (List.mem_cons_of_mem _ listed))
      fun other listed => targets other (List.mem_cons_of_mem _ listed)
    refine ⟨final, ?_, by simpa using ended⟩
    simp only [List.map_cons, inspect, added, bind, Except.bind]
    exact ran

end Archive

section Goal

variable {host : Host} {captured : List (Path Name × Tree)}

/-- What an extraction makes of a captured member: the lower nine bits of the mode of a file are kept, a
directory is a new one. -/
def restored (host : Host) : Tree → Node Name
  | .file _ content mode => .file content (mode % 0o1000)
  | .directory _ _ => host.directory
  | .link target => .symlink (targetOf target)
  | .special => host.directory

/-- The members, and the directories above them. -/
def goalOf (host : Host) (captured : List (Path Name × Tree)) (path : Path Name) : Option (Node Name) :=
  match captured.lookup path with
  | some tree => some (restored host tree)
  | none => if captured.any fun item => decide (path <+: item.1) then some host.directory else none

theorem Listed.goal (listed : Listed captured) {path : Path Name} {tree : Tree} (member : (path, tree) ∈ captured) :
    goalOf host captured path = some (restored host tree) := by
  rw [goalOf, lookup_of_mem listed.distinct member]

theorem Listed.roofed (listed : Listed captured) {item : Path Name × Tree} (member : item ∈ captured) :
    Roofed host (goalOf host captured) item.1 := by
  intro first rest shape _ more
  unfold goalOf
  cases found : captured.lookup first with
  | some tree =>
    obtain ⟨mode, children, rfl⟩ := listed.above item member first rest shape more tree (mem_of_lookup found)
    rfl
  | none =>
    have above : captured.any (fun item => decide (first <+: item.1)) = true :=
      List.any_eq_true.mpr ⟨item, member, by simp [shape]⟩
    simp only [above, ↓reduceIte]

theorem blocksOf_flatten (fuel : Nat) (content : List UInt8) (enough : content.length ≤ fuel) :
    (blocksOf fuel content).flatten = content := by
  induction fuel generalizing content with
  | zero =>
    rw [List.length_eq_zero_iff.mp (Nat.le_zero.mp enough)]
    rfl
  | succ fuel ih =>
    by_cases empty : content = []
    · simp [blocksOf, empty]
    · have positive := List.length_pos_iff.mpr empty
      rw [blocksOf, if_neg empty, List.flatten_cons, ih _ (by rw [List.length_drop]; omega), List.take_append_drop]

/-- The archive of a capture has no structural problem with its own manifest. -/
theorem structural_captured (listed : Listed captured) {inspection : Inspection}
    (inspected : Inspected captured inspection) :
    structural inspection (captured.map (recordOf host.digest)) = [] := by
  have texts : inspection.seen.map Member.text = (captured.map (recordOf host.digest)).map (·.1) := by
    have rendered := congrArg (List.map render) inspected.seen
    rw [List.map_map, List.map_map] at rendered
    rw [List.map_map]
    exact rendered
  have clear : ∀ member ∈ inspection.seen, beneath inspection member = false := by
    intro member seen
    rw [Bool.eq_false_iff]
    intro through
    obtain ⟨parent, above, linked⟩ := List.any_eq_true.mp through
    obtain ⟨first, proper, rfl⟩ := List.mem_map.mp above
    obtain ⟨link, among, same⟩ := List.any_eq_true.mp linked
    obtain ⟨within, counts⟩ := List.mem_filter.mp proper
    obtain ⟨rest, shape⟩ := (List.mem_inits _ _).mp within
    simp only [decide_eq_true_eq] at counts same
    have parts : member.parts ∈ captured.map (·.1) := inspected.seen ▸ List.mem_map_of_mem seen
    obtain ⟨item, here, named⟩ := List.mem_map.mp parts
    have valid := listed.valid item here
    rw [named, ← shape] at valid
    have target := inspected.link among
    have equal : link.1.parts = first := render_injective (listed.valid _ target) (valid.beginning counts.1) same
    rw [equal] at target
    have more : rest ≠ [] := by
      rintro rfl
      exact counts.2 (by simpa using shape)
    obtain ⟨mode, children, impossible⟩ := listed.above item here first rest (named.trans shape.symm) more _ target
    cases impossible
  unfold structural
  rw [inspected.problems, texts, if_pos (List.isPerm_iff.mpr (List.Perm.refl _))]
  rw [List.filter_eq_nil_iff.mpr fun member seen => by simp [clear member seen]]
  rfl

end Goal

section Extraction

variable {host : Host} {captured : List (Path Name × Tree)} {settled : Path Name → Prop} {d : Disk}

theorem extractFiles_grows {goal : Path Name → Option (Node Name)}
    {files : List (Member × Nat × Option (List (List UInt8)))}
    (each : ∀ file ∈ files, ∃ blocks, file.2.2 = some blocks ∧
      goal file.1.parts = some (.file blocks.flatten (file.2.1 % 0o1000)) ∧
      Roofed host goal file.1.parts ∧ file.1.parts.length < host.limit)
    (grown : Grown host goal settled d) :
    ∃ d', Returns (extractFiles host files) d [] d' ∧
      Grown host goal (fun path => settled path ∨ path ∈ files.map (·.1.parts)) d' := by
  induction files generalizing settled d with
  | nil => exact ⟨d, Returns.pure, grown.weaken fun path h => by simpa using h⟩
  | cons file rest ih =>
    obtain ⟨member, mode, content⟩ := file
    obtain ⟨blocks, rfl, becomes, roofed, short⟩ := each _ List.mem_cons_self
    obtain ⟨middle, ran, after⟩ := extractFile_grows becomes roofed short grown
    obtain ⟨final, went, ended⟩ := ih (fun other listed => each other (List.mem_cons_of_mem _ listed)) after
    refine ⟨final, ran.bind (went.bind Returns.pure), ended.weaken fun path h => ?_⟩
    simpa [or_assoc] using h

theorem mkdirAll_grows {goal : Path Name → Option (Node Name)} {directories : List Member}
    (each : ∀ member ∈ directories, goal member.parts = some host.directory ∧ Roofed host goal member.parts ∧
      member.parts.length < host.limit)
    (grown : Grown host goal settled d) :
    ∃ d', Returns (directories.forM fun member => mkdirs host member.parts member.parts.length) d () d' ∧
      Grown host goal (fun path => settled path ∨ path ∈ directories.map (·.parts)) d' := by
  refine Returns.forM (fun (done : List Member) d =>
    Grown host goal (fun path => settled path ∨ path ∈ done.map (·.parts)) d) ?_ ?_
  · intro done member rest d whole grown
    obtain ⟨directory, roofed, short⟩ := each member (by rw [← whole]; simp)
    have upto (path : Path Name) (beginning : Upto member.parts member.parts.length path) :
        goal path = some host.directory := by
      obtain ⟨nonempty, more, shape⟩ := beginning
      rw [List.take_length] at shape
      by_cases last : more = []
      · rw [last, List.append_nil] at shape
        rw [shape, directory]
      · exact roofed path more shape.symm nonempty last
    obtain ⟨d', made, after⟩ := mkdirs_grows le_rfl upto short grown
    refine ⟨d', made, after.weaken fun path h => ?_⟩
    have self : Upto member.parts member.parts.length member.parts := ⟨member.below, by rw [List.take_length]⟩
    simp only [List.map_append, List.map_cons, List.map_nil, List.mem_append, List.mem_singleton] at h
    rcases h with old | listed | rfl
    · exact .inl (.inl old)
    · exact .inl (.inr listed)
    · exact .inr self
  · exact grown.weaken fun path h => by simpa using h

theorem extractLinks_grows {goal : Path Name → Option (Node Name)} {links : List (Member × Text)}
    (each : ∀ link ∈ links, goal link.1.parts = some (.symlink (targetOf link.2)) ∧ Roofed host goal link.1.parts ∧
      link.1.parts.length < host.limit)
    (grown : Grown host goal settled d) :
    ∃ d', Returns (links.forM (extractLink host)) d () d' ∧
      Grown host goal (fun path => settled path ∨ path ∈ links.map (·.1.parts)) d' := by
  refine Returns.forM (fun (done : List (Member × Text)) d =>
    Grown host goal (fun path => settled path ∨ path ∈ done.map (·.1.parts)) d) ?_ ?_
  · intro done link rest d whole grown
    obtain ⟨becomes, roofed, short⟩ := each link (by rw [← whole]; simp)
    obtain ⟨d', made, after⟩ := extractLink_grows becomes roofed short grown
    refine ⟨d', made, after.weaken fun path h => ?_⟩
    simpa [or_assoc] using h
  · exact grown.weaken fun path h => by simpa using h

theorem look_captured (listed : Listed captured) (grown : Grown host (goalOf host captured) settled d)
    {item : Path Name × Tree}
    (member : item ∈ captured) (short : item.1.length < host.limit)
    (paved : Paved d.tree host.destination item.1) (there : settled item.1) :
    look host d false (render item.1) = some (restored host item.2) := by
  have valid := listed.valid item member
  have parts : (pureParts (render item.1)).map partOf = item.1.map .name := by
    rw [pureParts_render valid, List.map_inj_left]
    intro name among
    rw [partOf, if_neg (valid.2 name among).2.2.2]
  rw [look, render_relative valid, parts, if_neg Bool.false_ne_true, walk_paved paved (by simp) short]
  exact (grown.settled item.1 there).trans (listed.goal member)

theorem Grown.paved_member (listed : Listed captured) (grown : Grown host (goalOf host captured) settled d)
    {item : Path Name × Tree}
    (member : item ∈ captured) (there : settled item.1) : Paved d.tree host.destination item.1 := by
  intro first rest shape nonempty more
  rcases grown.within first nonempty with missing | found
  · refine absurd missing (grown.closed first rest nonempty ?_)
    rw [← shape, grown.settled item.1 there, listed.goal member]
    simp
  · exact ⟨_, found.trans (listed.roofed member first rest shape nonempty more)⟩

theorem verifyMember_captured (digest : List UInt8 → Text) (hashes : host.digest = digest) {item : Path Name × Tree}
    (supported : item.2 ≠ .special) (found : look host d false (render item.1) = some (restored host item.2)) :
    verifyMember host d (recordOf digest item).1 (recordOf digest item).2 = .ok [] := by
  obtain ⟨path, tree⟩ := item
  cases tree with
  | file inode content mode => simp [recordOf, verifyMember, found, restored, hashes]
  | directory mode children => simp [recordOf, verifyMember, found, restored, Host.directory]
  | link target => simp [recordOf, verifyMember, found, restored, targetOf]
  | special => exact absurd rfl supported

theorem verifyTree_captured (items : List (Path Name × Tree)) (supported : ∀ item ∈ items, item.2 ≠ .special)
    (found : ∀ item ∈ items, look host d false (render item.1) = some (restored host item.2)) :
    verifyTree host d (items.map (recordOf host.digest)) = .ok [] := by
  induction items with
  | nil => rfl
  | cons item rest ih =>
    have first := verifyMember_captured host.digest rfl (supported item List.mem_cons_self)
        (found item List.mem_cons_self)
    have others := ih (fun other among => supported other (List.mem_cons_of_mem _ among))
      fun other among => found other (List.mem_cons_of_mem _ among)
    simp only [List.map_cons, verifyTree, first, others, bind, Except.bind]
    rfl

theorem emptied_grown (goal : Path Name → Option (Node Name)) (tree : FileTree Name) :
    Grown host goal (fun _ => False) { tree := emptied tree host.destination } := by
  have missing (path : Path Name) (nonempty : path ≠ []) :
      emptied tree host.destination (host.destination ++ path) = none := by
    simp [emptied, nonempty]
  refine ⟨by simp [emptied], fun path nonempty => .inl (missing path nonempty), ?_, fun _ never => never.elim⟩
  intro first rest nonempty there
  exact absurd (missing (first ++ rest) (by simp [nonempty])) there

/-- Extracted with its own manifest, an archive of captured members gives all of them back. -/
theorem extractTree_captured (listed : Listed captured) (short : ∀ item ∈ captured, item.1.length < host.limit)
    (tree : FileTree Name) :
    ∃ d', Returns (extractTree host (.ok (captured.map infoOf)) (captured.map (recordOf host.digest)))
        { tree := emptied tree host.destination } [] d' ∧
      Grown host (goalOf host captured) (fun path => path ∈ captured.map (·.1)) d' := by
  have nothing : Inspected [] {} := ⟨rfl, rfl, rfl, rfl, rfl⟩
  obtain ⟨inspection, inspects, inspected⟩ := inspect_captured nothing listed.valid listed.supported
    fun item member target link => listed.targets item.1 target (by rw [← link]; exact member)
  rw [List.nil_append] at inspected
  have sound : structural inspection (captured.map (recordOf host.digest)) = [] := structural_captured listed inspected
  have aDirectory (member : Member) (among : member ∈ inspection.directories) :
      goalOf host captured member.parts = some host.directory ∧ Roofed host (goalOf host captured) member.parts ∧
        member.parts.length < host.limit := by
    obtain ⟨mode, children, here⟩ := inspected.directory among
    exact ⟨listed.goal here, listed.roofed here, short _ here⟩
  have aFile (file : Member × Nat × Option (List (List UInt8))) (among : file ∈ inspection.regular) :
      ∃ blocks, file.2.2 = some blocks ∧ goalOf host captured file.1.parts =
        some (.file blocks.flatten (file.2.1 % 0o1000)) ∧
        Roofed host (goalOf host captured) file.1.parts ∧ file.1.parts.length < host.limit := by
    obtain ⟨inode, content, mode, here, data⟩ := inspected.file among
    refine ⟨_, congrArg Prod.snd data, ?_, listed.roofed here, short _ here⟩
    rw [listed.goal here, blocksOf_flatten _ _ le_rfl, data, Nat.mod_mod_of_dvd _ (by decide)]
    rfl
  have aLink (link : Member × Text) (among : link ∈ inspection.symlinks) :
      goalOf host captured link.1.parts = some (.symlink (targetOf link.2)) ∧
        Roofed host (goalOf host captured) link.1.parts ∧
        link.1.parts.length < host.limit := by
    have here := inspected.link among
    exact ⟨listed.goal here, listed.roofed here, short _ here⟩
  obtain ⟨made, makes, directories⟩ := mkdirAll_grows aDirectory (emptied_grown (goalOf host captured) tree)
  obtain ⟨filled, fills, files⟩ := extractFiles_grows aFile directories
  obtain ⟨linked, links, grown⟩ := extractLinks_grows aLink files
  have settled : Grown host (goalOf host captured) (fun path => path ∈ captured.map (·.1)) linked := by
    refine grown.weaken fun path among => ?_
    obtain ⟨item, member, rfl⟩ := List.mem_map.mp among
    rcases inspected.every member (listed.supported item member) with directory | file | link
    · exact .inl (.inl (.inr directory))
    · exact .inl (.inr file)
    · exact .inr link
  have verified : verifyTree host linked (captured.map (recordOf host.digest)) = .ok [] := by
    refine verifyTree_captured captured listed.supported fun item member => ?_
    have there : item.1 ∈ captured.map (·.1) := List.mem_map_of_mem member
    exact look_captured listed settled member (short item member) (settled.paved_member listed member there) there
  refine ⟨linked, ?_, settled⟩
  refine (Returns.act rfl).bind ?_
  simp only [inspects]
  refine Returns.pure.bind ?_
  rw [if_neg (by simp [sound])]
  refine makes.bind (fills.bind (links.bind ((Returns.act ?_).bind Returns.pure)))
  rw [verified]
  rfl

end Extraction

section Prefixes

variable {roots : List (Path Name × Option Tree)}

theorem relativeMembers_listed (sound : SoundRoots roots) : Listed (relativeMembers roots) := by
  refine ⟨?_, relativeMembers_nodup sound, ?_, ?_, ?_⟩
  · intro item member
    obtain ⟨root, tree, rest, among, shape, at_, -⟩ := (mem_relativeMembers sound item.1 item.2).mp member
    have above := sound.valid _ among
    rw [shape]
    refine ⟨by simp [above.1], fun name listed => ?_⟩
    rcases List.mem_append.mp listed with first | later
    · exact above.2 name first
    · exact ((sound.sound root tree among).found at_).2 name later
  · intro item member first rest shape more upper listed
    obtain ⟨root, tree, below, among, path, at_, -⟩ := (mem_relativeMembers sound item.1 item.2).mp member
    obtain ⟨root', tree', below', among', rfl, at_', -⟩ := (mem_relativeMembers sound first upper).mp listed
    have here : root <+: item.1 := ⟨below, path.symm⟩
    have there : root' <+: item.1 := by
      rw [shape]
      exact ⟨below' ++ rest, by simp⟩
    cases sound.same among among' here there
    have whole : below = below' ++ rest := by
      rw [path, List.append_assoc] at shape
      exact List.append_cancel_left shape
    rw [whole] at at_
    obtain ⟨found, same, lower⟩ := Tree.find_above at_
    cases at_'.symm.trans same
    cases rest with
    | nil => exact absurd rfl more
    | cons name rest =>
      obtain ⟨mode, children, _, directory, -⟩ := Tree.find_cons lower
      exact ⟨mode, children, directory⟩
  · intro item member special
    obtain ⟨root, tree, rest, among, -, at_, -⟩ := (mem_relativeMembers sound item.1 item.2).mp member
    have below := ((sound.sound root tree among).found at_).1
    rw [special] at below
    exact below
  · intro path target member
    obtain ⟨root, tree, rest, among, -, at_, -⟩ := (mem_relativeMembers sound path _).mp member
    exact ((sound.sound root tree among).found at_).1

/-- A path below a root that is no member leads to none. -/
theorem goalOf_outside (sound : SoundRoots roots) {root rest : Path Name} {standing : Option Tree}
    (among : (root, standing) ∈ roots)
    (outside : ∀ found, (root ++ rest, found) ∉ relativeMembers roots) :
    goalOf host (relativeMembers roots) (root ++ rest) = none := by
  have unlisted : (relativeMembers roots).lookup (root ++ rest) = none := by
    cases found : (relativeMembers roots).lookup (root ++ rest) with
    | none => rfl
    | some tree => exact absurd (mem_of_lookup found) (outside tree)
  have above : ¬ ((relativeMembers roots).any fun item => decide (root ++ rest <+: item.1)) = true := by
    intro some
    obtain ⟨item, member, leads⟩ := List.any_eq_true.mp some
    obtain ⟨more, shape⟩ := of_decide_eq_true leads
    obtain ⟨root', tree, below, among', path, at_, kept⟩ := (mem_relativeMembers sound item.1 item.2).mp member
    have here : root <+: item.1 := ⟨rest ++ more, by rw [← shape, List.append_assoc]⟩
    cases sound.same among among' here ⟨below, path.symm⟩
    have whole : below = rest ++ more := by
      rw [path, List.append_assoc] at shape
      exact (List.append_cancel_left shape).symm
    rw [whole] at at_ kept
    obtain ⟨upper, found, -⟩ := Tree.find_above at_
    refine outside upper ((mem_relativeMembers sound _ _).mpr ⟨root, tree, rest, among', rfl, found, ?_⟩)
    intro first later shape nonempty
    exact kept first (later ++ more) (by rw [shape, List.append_assoc]) (by simp [nonempty])
  rw [goalOf, unlisted]
  exact if_neg above

theorem captureTree_restores (host : Host) (tree : FileTree Name) (sound : SoundRoots roots)
    (short : ∀ item ∈ relativeMembers roots, item.1.length < host.limit) :
    ∃ archive manifest d', captureTree host.digest roots = .ok (archive, manifest) ∧
      Returns (extractTree host (.ok archive) manifest) { tree := emptied tree host.destination } [] d' ∧
      ∀ root standing, (root, standing) ∈ roots → ∀ rest,
        (Kept (emptyDirectories roots) root rest →
          d'.tree (host.destination ++ (root ++ rest)) =
            (standing.bind fun found => found.find rest).map (restored host)) ∧
        (¬ Kept (emptyDirectories roots) root rest → d'.tree (host.destination ++ (root ++ rest)) = none) := by
  have listed : Listed (relativeMembers roots) := relativeMembers_listed sound
  obtain ⟨capturing, captures, archive, manifest⟩ :=
    captureMembers_ok host.digest {} (relativeMembers roots) listed.supported (by simpa using listed.names)
  obtain ⟨d', extracts, grown⟩ := extractTree_captured listed short tree
  refine ⟨_, _, d', by rw [captureTree, captures]; rfl, ?_, ?_⟩
  · rw [archive, manifest]
    exact extracts
  intro root standing among rest
  have nonempty : root ++ rest ≠ [] := by simp [(sound.valid _ among).1]
  -- What is no member is missing in the end.
  have missing (outside : ∀ found, (root ++ rest, found) ∉ relativeMembers roots) :
      d'.tree (host.destination ++ (root ++ rest)) = none := by
    rcases grown.within _ nonempty with gone | there
    · exact gone
    · exact there.trans (goalOf_outside sound among outside)
  have member (found : Tree) (listed : (root ++ rest, found) ∈ relativeMembers roots) :
      (standing.bind fun found => found.find rest) = some found ∧ Kept (emptyDirectories roots) root rest := by
    obtain ⟨root', tree', rest', among', shape, at_, kept⟩ := (mem_relativeMembers sound _ _).mp listed
    cases sound.same among among' ⟨rest, rfl⟩ ⟨rest', shape.symm⟩
    cases List.append_cancel_left shape
    exact ⟨at_, kept⟩
  refine ⟨fun kept => ?_, fun lost => missing fun found listed => lost (member found listed).2⟩
  cases at_ : standing.bind fun found => found.find rest with
  | none =>
    refine missing fun found listed => ?_
    rw [(member found listed).1] at at_
    cases at_
  | some found =>
    obtain ⟨tree', rfl, below⟩ := Option.bind_eq_some_iff.mp at_
    have here : (root ++ rest, found) ∈ relativeMembers roots :=
      (mem_relativeMembers sound _ _).mpr ⟨root, tree', rest, among, rfl, below, kept⟩
    rw [grown.settled _ (List.mem_map_of_mem here), listed.goal here]
    rfl

/-- A node brings a captured member back. Of a directory nothing but its kind counts. -/
def Tree.BroughtBack : Tree → Node Name → Prop
  | .file _ content mode, node => node = .file content (mode % 0o1000)
  | .directory _ _, node => node.isDirectory = true
  | .link target, node => node = .symlink (targetOf target)
  | .special, _ => False

theorem restored_broughtBack {host : Host} {tree : Tree} (supported : tree ≠ .special) :
    tree.BroughtBack (restored host tree) := by
  cases tree with
  | special => exact supported rfl
  | _ => rfl

/-- The captured roots of a prefix, extracted into an empty directory, hold what they held, less what lay in the
directories that are kept empty; of the mode of a file the lower nine bits are kept. -/
theorem captureTree_roundtrip (host : Host) (pre : Prefix) (tree : FileTree Name) (sound : pre.Sound)
    (short : ∀ item ∈ relativeMembers (capturedRoots pre), item.1.length < host.limit) :
    ∃ archive manifest d', captureTree host.digest (capturedRoots pre) = .ok (archive, manifest) ∧
      Returns (extractTree host (.ok archive) manifest) { tree := emptied tree host.destination } [] d' ∧
      ∀ root standing, (root, standing) ∈ capturedRoots pre → ∀ rest,
        (Kept (emptyDirectories (capturedRoots pre)) root rest →
          Option.Rel Tree.BroughtBack (standing.bind fun found => found.find rest)
            (d'.tree (host.destination ++ (root ++ rest)))) ∧
        (¬ Kept (emptyDirectories (capturedRoots pre)) root rest →
          d'.tree (host.destination ++ (root ++ rest)) = none) := by
  obtain ⟨archive, manifest, d', captures, extracts, holds⟩ := captureTree_restores host tree sound.capturedRoots short
  refine ⟨archive, manifest, d', captures, extracts, fun root standing among rest =>
    ⟨fun kept => ?_, (holds _ _ among rest).2⟩⟩
  rw [(holds root standing among rest).1 kept]
  cases at_ : standing.bind fun found => found.find rest with
  | none => exact .none
  | some found =>
    refine .some (restored_broughtBack fun special => ?_)
    obtain ⟨top, rfl, below⟩ := Option.bind_eq_some_iff.mp at_
    have supported := ((sound.capturedRoots.sound root top among).found below).1
    rw [special] at supported
    exact supported

/-- A program with two names, the first of them set-user-ID, a link to it, and a work directory with a file in
a directory that is kept empty. -/
def brewPrefix : Prefix where
  locals :=
    some [("bin".toList, .directory 0o755 [("lz4".toList, .file 1 [7] 0o4755), ("lz4c".toList, .file 1 [7] 0o4755)]),
    ("unlz4".toList, .link "bin/lz4".toList)]
  workName := "west-homebrew-lz4-1".toList
  work := some (.directory 0o700 [("tmp".toList, .directory 0o1777 [("left".toList, .file 2 [] 0o600)])])

theorem brewPrefix_sound : brewPrefix.Sound := by
  refine ⟨by decide, ?_, by decide, ?_⟩
  · exact ⟨by decide, ⟨by decide, by decide, trivial, by decide, trivial, trivial⟩,
      by decide, List.cons_ne_nil _ _, trivial⟩
  · rintro _ ⟨⟩
    exact ⟨by decide, by decide, ⟨by decide, by decide, trivial, trivial⟩, trivial⟩

theorem brewPrefix_short (item : Path Name × Tree) (member : item ∈ relativeMembers (capturedRoots brewPrefix)) :
    item.1.length < prefixHost.limit := by
  have lengths : ∀ length ∈ (relativeMembers (capturedRoots brewPrefix)).map (·.1.length), length < 40 := by
    decide +kernel
  exact lengths _ (List.mem_map_of_mem member)

theorem captureTree_roundtrip_brew :
    ∃ archive manifest d', captureTree prefixHost.digest (capturedRoots brewPrefix) = .ok (archive, manifest) ∧
      Returns (extractTree prefixHost (.ok archive) manifest)
        { tree := emptied (fun _ => none) prefixHost.destination } [] d' ∧
      ∀ root standing, (root, standing) ∈ capturedRoots brewPrefix → ∀ rest,
        (Kept (emptyDirectories (capturedRoots brewPrefix)) root rest →
          Option.Rel Tree.BroughtBack (standing.bind fun found => found.find rest)
            (d'.tree (prefixHost.destination ++ (root ++ rest)))) ∧
        (¬ Kept (emptyDirectories (capturedRoots brewPrefix)) root rest →
          d'.tree (prefixHost.destination ++ (root ++ rest)) = none) :=
  captureTree_roundtrip prefixHost brewPrefix (fun _ => none) brewPrefix_sound brewPrefix_short

/-- The program is captured with mode 4755 and comes back with mode 0755, the work directory with mode 0700, as
the manifest says, and comes back with mode 0755; no problem is reported. -/
theorem captureTree_loses_modes :
    brewPrefix.Sound ∧
    (relativeMembers (capturedRoots brewPrefix)).lookup (localRoot ++ ["bin".toList, "lz4".toList]) =
      some (.file 1 [7] 0o4755) ∧
    (∃ children, (workRoot brewPrefix, .directory 0o700 children) ∈ relativeMembers (capturedRoots brewPrefix)) ∧
    ∃ archive manifest d', captureTree prefixHost.digest (capturedRoots brewPrefix) = .ok (archive, manifest) ∧
      manifest.lookup (render (workRoot brewPrefix)) =
        some (.object (some "directory".toList) none none (some 0o700) (some 0)) ∧
      Returns (extractTree prefixHost (.ok archive) manifest)
        { tree := emptied (fun _ => none) prefixHost.destination } [] d' ∧
      d'.tree (prefixHost.destination ++ (localRoot ++ ["bin".toList, "lz4".toList])) = some (.file [7] 0o755) ∧
      d'.tree (prefixHost.destination ++ workRoot brewPrefix) = some (.directory 0o755) := by
  obtain ⟨archive, manifest, d', captures, extracts, holds⟩ :=
    captureTree_restores prefixHost (fun _ => none) brewPrefix_sound.capturedRoots brewPrefix_short
  have recorded : (captureTree prefixHost.digest (capturedRoots brewPrefix)).toOption.bind (fun made =>
      made.2.lookup (render (workRoot brewPrefix))) =
      some (.object (some "directory".toList) none none (some 0o700) (some 0)) := by decide +kernel
  rw [captures] at recorded
  have work : (workRoot brewPrefix, brewPrefix.work) ∈ capturedRoots brewPrefix :=
    List.mem_append_right _ List.mem_cons_self
  refine ⟨brewPrefix_sound, rfl, ⟨_, List.mem_flatMap.mpr ⟨_, work, List.mem_cons_self⟩⟩, archive,
    manifest, d', captures,
    recorded, extracts, ?_, ?_⟩
  · have kept : Kept (emptyDirectories (capturedRoots brewPrefix)) (localRoot ++ ["bin".toList]) ["lz4".toList] := by
      intro first rest _ _ listed
      have heads : ∀ path ∈ emptyDirectories (capturedRoots brewPrefix), path.head? = some "private".toList := by
        decide +kernel
      exact absurd (heads _ listed) (by simp [localRoot])
    exact (holds _ _ List.mem_cons_self ["lz4".toList]).1 kept
  · have kept : Kept (emptyDirectories (capturedRoots brewPrefix)) (workRoot brewPrefix) [] := by
      intro first rest shape nonempty
      exact absurd (List.append_eq_nil_iff.mp shape.symm).2 nonempty
    have back := (holds (workRoot brewPrefix) brewPrefix.work work []).1 kept
    rw [List.append_nil] at back
    exact back

end Prefixes

end Darling.Stack
