import Darling.Stack.Extract
import Darling.Library.Pacing

/-! An extraction that nothing disturbs grows the tree of its members below an empty directory. At every
moment a path below the destination is missing or is what it will be in the end, and what lies above a path
that is there is there too. -/
namespace Darling.Stack

open FileTrees

variable {host : Host} {goal : Path Name → Option (Node Name)}

/-- What `mkdir` makes. -/
def Host.directory (host : Host) : Node Name := .directory (masked host.umask 0o777)

structure Grown (host : Host) (goal : Path Name → Option (Node Name)) (settled : Path Name → Prop)
    (d : Disk) : Prop where
  base : ∃ mode, d.tree host.destination = some (.directory mode)
  within : ∀ path, path ≠ [] → d.tree (host.destination ++ path) = none ∨ d.tree (host.destination ++ path) = goal path
  closed : ∀ first rest, first ≠ [] → d.tree (host.destination ++ (first ++ rest)) ≠ none →
    d.tree (host.destination ++ first) ≠ none
  settled : ∀ path, settled path → d.tree (host.destination ++ path) = goal path

/-- The proper ancestors of the path are directories in the end. -/
def Roofed (host : Host) (goal : Path Name → Option (Node Name)) (path : Path Name) : Prop :=
  ∀ first rest, path = first ++ rest → first ≠ [] → rest ≠ [] → goal first = some host.directory

theorem Grown.weaken {settled fewer : Path Name → Prop} {d : Disk} (grown : Grown host goal settled d)
    (less : ∀ path, fewer path → settled path) : Grown host goal fewer d :=
  { grown with settled := fun path h => grown.settled path (less path h) }

theorem Grown.clear {settled : Path Name → Prop} {d : Disk} (grown : Grown host goal settled d) {path : Path Name}
    (roofed : Roofed host goal path) : Open d.tree host.destination path := by
  intro first rest shape nonempty more
  rcases grown.within first nonempty with missing | there
  · exact .inl missing
  · exact .inr ⟨_, there.trans (roofed first rest shape nonempty more)⟩

/-- A path gets what it will have. -/
theorem Grown.update {settled : Path Name → Prop} {d d' : Disk} (grown : Grown host goal settled d) {path : Path Name}
    (nonempty : path ≠ []) (becomes : goal path ≠ none) (paved : Paved d.tree host.destination path)
    (tree : d'.tree = Function.update d.tree (host.destination ++ path) (goal path)) :
    Grown host goal (fun other => settled other ∨ other = path) d' := by
  have elsewhere (other : Path Name) (h : other ≠ path) :
      d'.tree (host.destination ++ other) = d.tree (host.destination ++ other) := by
    rw [tree, Function.update_of_ne]
    simpa using h
  have here : d'.tree (host.destination ++ path) = goal path := by rw [tree, Function.update_self]
  refine ⟨?_, ?_, ?_, ?_⟩
  · rw [tree, Function.update_of_ne]
    · exact grown.base
    · simpa using Ne.symm nonempty
  · intro other h
    by_cases same : other = path
    · exact .inr (same ▸ here)
    · rw [elsewhere other same]
      exact grown.within other h
  · intro first rest some there
    by_cases same : first = path
    · rwa [same, here]
    · rw [elsewhere first same]
      by_cases whole : first ++ rest = path
      · have more : rest ≠ [] := by
          rintro rfl
          exact same (by simpa using whole)
        obtain ⟨mode, directory⟩ := paved first rest whole.symm some more
        simp [directory]
      · rw [elsewhere _ whole] at there
        exact grown.closed first rest some there
  · intro other h
    by_cases same : other = path
    · exact same ▸ here
    · rw [elsewhere other same]
      exact grown.settled other (h.resolve_right same)

section Steps

variable {d : Disk} {path : Path Name} {settled : Path Name → Prop}

theorem reach_paved {follow : Bool} (paved : Paved d.tree host.destination path)
    (ends : follow = true → ∀ target, d.tree (host.destination ++ path) ≠ some (.symlink target))
    (short : path.length < host.limit) : reach host d follow path = .ok ⟨host.destination ++ path, 0⟩ := by
  rw [reach, walk_paved paved ends short]
  rfl

theorem changing_returns {point : Point} {follow : Bool}
    {change : Option (Node Name) → Except Errno (Option (Node Name))}
    {node : Option (Node Name)} (reached : reach host d follow path = .ok ⟨host.destination ++ path, 0⟩)
    (changed : change (d.tree (host.destination ++ path)) = .ok node) :
    Returns (changing host point follow path change) d ⟨host.destination ++ path, 0⟩
      (d.set ⟨host.destination ++ path, 0⟩ node) := by
  refine Returns.act ?_
  simp only [reached, changed]

theorem changing_raises {point : Point} {follow : Bool}
    {change : Option (Node Name) → Except Errno (Option (Node Name))}
    {errno : Errno} (reached : reach host d follow path = .ok ⟨host.destination ++ path, 0⟩)
    (refused : change (d.tree (host.destination ++ path)) = .error errno) :
    Raises (changing host point follow path change) d (.os errno) d := by
  refine Raises.act ?_
  simp only [reached, refused]

theorem mkdirAt_missing {path : Path Name}
    (stopped : walk d.tree false host.limit host.destination 0 (path.map .name) = .error .notFound) :
    Raises (mkdirAt host path) d (.os .notFound) d := by
  unfold mkdirAt changing
  refine Raises.act ?_
  have lost : reach host d false path = .error (.os .notFound) := by
    rw [reach, stopped]
    rfl
  simp only [lost]

theorem acceptDirectory_returns {failure : Failure} {mode : Nat} (paved : Paved d.tree host.destination path)
    (there : d.tree (host.destination ++ path) = some (.directory mode)) (short : path.length < host.limit) :
    Returns (acceptDirectory host path failure) d () d := by
  have reached : reach host d true path = .ok ⟨host.destination ++ path, 0⟩ :=
    reach_paved paved (fun _ target => by simp [there]) short
  refine Returns.disk.bind ?_
  have accepted : isDir host d path = true := by simp [isDir, reached, there, Node.isDirectory]
  rw [if_pos accepted]
  exact Returns.pure

/-- Over directories a directory is made, or found. -/
theorem mkdirAt_paved (grown : Grown host goal settled d) (nonempty : path ≠ [])
    (directory : goal path = some host.directory) (paved : Paved d.tree host.destination path)
    (short : path.length < host.limit) :
    (∃ d', Returns (do let _ ← mkdirAt host path) d () d' ∧
      Grown host goal (fun other => settled other ∨ other = path) d') ∨
      (Raises (do let _ ← mkdirAt host path) d (.os .exists) d ∧ d.tree (host.destination ++ path) =
        some host.directory) := by
  have reached : reach host d false path = .ok ⟨host.destination ++ path, 0⟩ := reach_paved paved (by simp) short
  rcases grown.within path nonempty with missing | there
  · refine .inl ⟨_, (changing_returns reached (by rw [missing])).bind Returns.pure, ?_⟩
    exact grown.update nonempty (by simp [directory]) paved (by rw [directory]; rfl)
  · rw [directory] at there
    exact .inr ⟨(changing_raises reached (by rw [there])).bind, there⟩

theorem Grown.found (grown : Grown host goal settled d) (there : d.tree (host.destination ++ path) = goal path) :
    Grown host goal (fun other => settled other ∨ other = path) d :=
  { grown with settled := fun other h => h.elim (grown.settled other) fun same => same ▸ there }

theorem mkdirOnce_grows (grown : Grown host goal settled d) (nonempty : path ≠ [])
    (directory : goal path = some host.directory) (paved : Paved d.tree host.destination path)
    (short : path.length < host.limit) :
    ∃ d', Returns (mkdirOnce host path) d () d' ∧ Grown host goal (fun other => settled other ∨ other = path) d' := by
  rcases mkdirAt_paved grown nonempty directory paved short with ⟨d', made, after⟩ | ⟨refused, there⟩
  · exact ⟨d', made.handle, after⟩
  · exact ⟨d, refused.handle_returns (acceptDirectory_returns paved there short),
      grown.found (there.trans directory.symm)⟩

theorem mkdirOnce_base (grown : Grown host goal settled d) (positive : 0 < host.limit) :
    Returns (mkdirOnce host []) d () d := by
  have paved : Paved d.tree host.destination [] := by
    intro first rest shape nonempty _
    exact absurd (List.append_eq_nil_iff.mp shape.symm).1 nonempty
  obtain ⟨mode, base⟩ := grown.base
  have there : d.tree (host.destination ++ []) = some (.directory mode) := by rw [List.append_nil, base]
  have refused : Raises (do let _ ← mkdirAt host []) d (.os .exists) d :=
    (changing_raises (reach_paved paved (by simp) positive) (by rw [there])).bind
  exact refused.handle_returns (acceptDirectory_returns paved there positive)

/-- With its ancestors there, a path is walked over directories. -/
theorem Grown.paved (grown : Grown host goal settled d) (roofed : Roofed host goal path)
    (above : ∀ first rest, path = first ++ rest → first ≠ [] → rest ≠ [] → settled first) :
    Paved d.tree host.destination path := by
  intro first rest shape nonempty more
  exact ⟨_, (grown.settled first (above first rest shape nonempty more)).trans (roofed first rest shape nonempty more)⟩

/-- The first names of the path. -/
def Upto (name : Path Name) (depth : Nat) (path : Path Name) : Prop := path ≠ [] ∧ path <+: name.take depth

theorem mkdirs_grows {name : Path Name} {depth : Nat} (within : depth ≤ name.length)
    (directories : ∀ path, Upto name depth path → goal path = some host.directory) (short : name.length < host.limit)
    (grown : Grown host goal settled d) :
    ∃ d', Returns (mkdirs host name depth) d () d' ∧
      Grown host goal (fun path => settled path ∨ Upto name depth path) d' := by
  induction depth generalizing settled d with
  | zero =>
    refine ⟨d, mkdirOnce_base grown (by omega), grown.weaken fun path h => h.resolve_right ?_⟩
    rintro ⟨nonempty, upto⟩
    exact nonempty (by simpa using upto)
  | succ depth ih =>
    have length : (name.take (depth + 1)).length = depth + 1 := by rw [List.length_take]; omega
    have nonempty : name.take (depth + 1) ≠ [] := by
      intro empty
      rw [empty] at length
      cases length
    have whole : goal (name.take (depth + 1)) = some host.directory :=
      directories _ ⟨nonempty, List.prefix_rfl⟩
    -- A proper beginning of the first names is a beginning of one name less.
    have shorter (first rest : Path Name) (shape : name.take (depth + 1) = first ++ rest) (more : rest ≠ []) :
        first <+: name.take depth := by
      have fewer : first.length ≤ depth := by
        have lengths := congrArg List.length shape
        rw [length, List.length_append] at lengths
        have := List.length_pos_iff.mpr more
        omega
      have both : first <+: name.take (depth + 1) := ⟨rest, shape.symm⟩
      have taken : name.take depth <+: name.take (depth + 1) := List.take_prefix_take_left (Nat.le_succ _)
      refine List.prefix_of_prefix_length_le both taken ?_
      rw [List.length_take]
      omega
    have roofed : Roofed host goal (name.take (depth + 1)) := by
      intro first rest shape some more
      refine directories first ⟨some, ?_⟩
      exact (shorter first rest shape more).trans (List.take_prefix_take_left (Nat.le_succ _))
    have joined {d' : Disk} (after : Grown host goal (fun path => (settled path ∨ Upto name depth path) ∨
        path = name.take (depth + 1)) d') :
        Grown host goal (fun path => settled path ∨ Upto name (depth + 1) path) d' := by
      refine after.weaken fun path h => ?_
      rcases h with old | ⟨some, upto⟩
      · exact .inl (.inl old)
      · by_cases all : path = name.take (depth + 1)
        · exact .inr all
        · obtain ⟨rest, shape⟩ := upto
          refine .inl (.inr ⟨some, shorter path rest shape.symm ?_⟩)
          rintro rfl
          exact all (by simpa using shape)
    have bound : (name.take (depth + 1)).length < host.limit := by omega
    -- The names are there up to the last one, or one of them is missing and made first.
    rcases walk_open (grown.clear roofed) bound with paved | stopped
    · have above : Grown host goal (fun path => settled path ∨ Upto name depth path) d := by
        refine ⟨grown.base, grown.within, grown.closed, fun path h => h.elim (grown.settled path) fun upto => ?_⟩
        obtain ⟨rest, shape⟩ := upto.2.trans (List.take_prefix_take_left (Nat.le_succ _) : name.take depth <+:
            name.take (depth + 1))
        have more : rest ≠ [] := by
          rintro rfl
          have lengths := congrArg List.length shape
          have fewer := upto.2.length_le
          rw [List.append_nil, length] at lengths
          rw [List.length_take] at fewer
          omega
        obtain ⟨mode, directory⟩ := paved path rest shape.symm upto.1 more
        exact (grown.within path upto.1).resolve_left (by simp [directory])
      rcases mkdirAt_paved above nonempty whole paved bound with ⟨d', made, after⟩ | ⟨refused, there⟩
      · exact ⟨d', made.handle, joined after⟩
      · exact ⟨d, refused.handle_returns (acceptDirectory_returns paved there bound),
          joined (above.found (there.trans whole.symm))⟩
    · obtain ⟨d', made, after⟩ := ih (by omega)
        (fun path upto => directories path ⟨upto.1, upto.2.trans (List.take_prefix_take_left (Nat.le_succ _))⟩) grown
      have paved : Paved d'.tree host.destination (name.take (depth + 1)) :=
        after.paved roofed fun first rest shape some more => .inr ⟨some, shorter first rest shape more⟩
      obtain ⟨d'', last, ended⟩ := mkdirOnce_grows after nonempty whole paved bound
      exact ⟨d'', (mkdirAt_missing stopped).bind.handle_returns (made.bind last), joined ended⟩

/-- The parents of a path are made, and it can be walked to. -/
theorem makeParents_grows (roofed : Roofed host goal path) (nonempty : path ≠ []) (short : path.length < host.limit)
    (grown : Grown host goal settled d) :
    ∃ d', Returns (makeParents host path) d () d' ∧ Grown host goal settled d' ∧
      Paved d'.tree host.destination path := by
  have proper (first : Path Name) (upto : Upto path (path.length - 1) first) :
      ∃ rest, path = first ++ rest ∧ rest ≠ [] := by
    obtain ⟨rest, shape⟩ := upto.2.trans (List.take_prefix _ path)
    refine ⟨rest, shape.symm, ?_⟩
    rintro rfl
    have fewer := upto.2.length_le
    have lengths := congrArg List.length shape
    have positive := List.length_pos_iff.mpr nonempty
    rw [List.append_nil] at lengths
    rw [List.length_take] at fewer
    omega
  obtain ⟨d', made, after⟩ := mkdirs_grows (Nat.sub_le _ _) (fun first upto => by
    obtain ⟨rest, shape, more⟩ := proper first upto
    exact roofed first rest shape upto.1 more) short grown
  refine ⟨d', made, after.weaken fun _ => .inl, after.paved roofed ?_⟩
  intro first rest shape some more
  refine .inr ⟨some, List.prefix_take_iff.mpr ⟨⟨rest, shape.symm⟩, ?_⟩⟩
  have lengths := congrArg List.length shape
  have positive := List.length_pos_iff.mpr more
  rw [List.length_append] at lengths
  omega

theorem writeBlocks_returns {opened : Reached Name} {content : List UInt8} {mode : Nat} (blocks : List (List UInt8))
    (there : d.tree opened.path = some (.file content mode)) :
    ∃ d', Returns (blocks.forM (writeBlock opened)) d () d' ∧
      d'.tree = Function.update d.tree opened.path (some (.file (content ++ blocks.flatten) mode)) := by
  refine Returns.forM (fun done (d' : Disk) =>
    d'.tree = Function.update d.tree opened.path (some (.file (content ++ done.flatten) mode))) ?_ ?_
  · intro done block rest d' _ held
    have now : d'.tree opened.path = some (.file (content ++ done.flatten) mode) := by rw [held, Function.update_self]
    refine ⟨_, Returns.write, ?_⟩
    simp only [now, Disk.set]
    rw [held, Function.update_idem]
    simp
  · simp [← there]

theorem extractFile_grows {member : Member} {mode : Nat} {blocks : List (List UInt8)}
    (file : goal member.parts = some (.file blocks.flatten (mode % 0o1000))) (roofed : Roofed host goal member.parts)
    (short : member.parts.length < host.limit) (grown : Grown host goal settled d) :
    ∃ d', Returns (extractFile host (member, mode, some blocks)) d [] d' ∧
      Grown host goal (fun path => settled path ∨ path = member.parts) d' := by
  obtain ⟨parents, made, above, paved⟩ := makeParents_grows roofed member.below short grown
  let place : Reached Name := ⟨host.destination ++ member.parts, 0⟩
  -- The file is not there yet, or is there already; in both cases it is empty once opened.
  have opens : ∃ first opened, Returns (openFile host member.parts) parents place opened ∧
      opened.tree = Function.update parents.tree place.path (some (.file [] first)) := by
    rcases above.within member.parts member.below with missing | there
    · refine ⟨_, _, changing_returns (reach_paved paved (fun _ target => by simp [missing]) short)
        (by rw [missing]), rfl⟩
    · rw [file] at there
      exact ⟨_, _, changing_returns (reach_paved paved (fun _ target => by simp [there]) short) (by rw [there]), rfl⟩
  obtain ⟨first, opened, ran, tree⟩ := opens
  have empty : opened.tree place.path = some (.file [] first) := by rw [tree, Function.update_self]
  obtain ⟨written, wrote, content⟩ := writeBlocks_returns blocks empty
  rw [tree, Function.update_idem, List.nil_append] at content
  have same : Paved written.tree host.destination member.parts := paved.update content
  have now : written.tree (host.destination ++ member.parts) = some (.file blocks.flatten first) := by
    rw [content, Function.update_self]
  have set : Returns (chmod host member.parts (mode % 0o1000)) written ()
      (written.set place (some (.file blocks.flatten (mode % 0o1000)))) :=
    (changing_returns (reach_paved same (fun _ target => by simp [now]) short) (by rw [now])).bind Returns.pure
  refine ⟨_, made.bind (ran.bind (wrote.bind (set.bind Returns.pure))), ?_⟩
  refine above.update member.below (by simp [file]) paved ?_
  rw [Disk.set, content, Function.update_idem, file]

theorem symlinkTo_returns (linkname : Text) (paved : Paved d.tree host.destination path)
    (missing : d.tree (host.destination ++ path) = none) (short : path.length < host.limit) :
    Returns (symlinkTo host path linkname) d ()
      (d.set ⟨host.destination ++ path, 0⟩ (some (.symlink (targetOf linkname)))) :=
  (changing_returns (reach_paved paved (by simp) short) (by rw [missing])).bind Returns.pure

theorem unlink_returns {target : Target Name} (paved : Paved d.tree host.destination path)
    (there : d.tree (host.destination ++ path) = some (.symlink target)) (short : path.length < host.limit) :
    Returns (unlink host path) d () (d.set ⟨host.destination ++ path, 0⟩ none) :=
  (changing_returns (reach_paved paved (by simp) short) (by rw [there])).bind Returns.pure

theorem extractLink_grows {member : Member} {linkname : Text}
    (link : goal member.parts = some (.symlink (targetOf linkname)))
    (roofed : Roofed host goal member.parts) (short : member.parts.length < host.limit)
    (grown : Grown host goal settled d) :
    ∃ d', Returns (extractLink host (member, linkname)) d () d' ∧
      Grown host goal (fun path => settled path ∨ path = member.parts) d' := by
  obtain ⟨parents, made, above, paved⟩ := makeParents_grows roofed member.below short grown
  have reached : reach host parents false member.parts = .ok ⟨host.destination ++ member.parts, 0⟩ :=
    reach_paved paved (by simp) short
  -- A link that is there already is taken away and made again.
  have cleared : ∃ bare, Returns (onlyIf (isLinkOrFile host parents member.parts) (unlink host member.parts))
      parents () bare ∧
      bare.tree = Function.update parents.tree (host.destination ++ member.parts) none := by
    rcases above.within member.parts member.below with missing | there
    · have followed : reach host parents true member.parts = .ok ⟨host.destination ++ member.parts, 0⟩ :=
        reach_paved paved (fun _ target => by simp [missing]) short
      have absent : isLinkOrFile host parents member.parts = false := by
        simp [isLinkOrFile, reached, followed, missing]
      rw [absent]
      exact ⟨parents, Returns.pure, by rw [← missing, Function.update_eq_self]⟩
    · rw [link] at there
      have present : isLinkOrFile host parents member.parts = true := by
        simp [isLinkOrFile, reached, there, Node.isLink]
      rw [present]
      exact ⟨_, unlink_returns paved there short, rfl⟩
  obtain ⟨bare, removed, tree⟩ := cleared
  have linked := symlinkTo_returns linkname (paved.update tree) (by rw [tree, Function.update_self]) short
  refine ⟨_, made.bind (Returns.disk.bind (removed.bind linked)), above.update member.below (by simp [link]) paved ?_⟩
  rw [Disk.set, tree, Function.update_idem, link]

end Steps

end Darling.Stack
