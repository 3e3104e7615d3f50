import Darling.Stack.Extract

/-! Nothing is extracted through a link. Links are written last, and no member lies beneath one. -/
namespace Darling.Stack

open FileTrees

/-- A place below the destination, reached through no link. -/
def Confined (host : Host) (reached : Reached Name) : Prop :=
  reached.links = 0 ∧ ∃ rest, rest ≠ [] ∧ reached.path = host.destination ++ rest

/-- A tree in which the destination is an empty directory. -/
def emptied (tree : FileTree Name) (destination : Path Name) : FileTree Name := fun path =>
  if path = destination then some (.directory 0o755) else if destination.isPrefixOf path then none else tree path

/-- Everything touched so far was confined, and the links below the destination are among those given. -/
structure Guarded (host : Host) (links : List (Path Name)) (d : Disk) : Prop where
  confined : ∀ reached ∈ d.touches, Confined host reached
  destination : d.tree host.destination ≠ none
  links : ∀ rest target, d.tree (host.destination ++ rest) = some (.symlink target) → rest ∈ links

/-- No ancestor of the name is one of the links, nor the name itself when it is followed. -/
def Clear (links : List (Path Name)) (follow : Bool) (name : Path Name) : Prop :=
  ∀ first rest, name = first ++ rest → first ≠ [] → (follow = true ∨ rest ≠ []) → first ∉ links

theorem Clear.take {links : List (Path Name)} {name : Path Name} (clear : Clear links false name) {depth : Nat}
    (short : depth < name.length) : Clear links true (name.take depth) := by
  intro first rest shape nonempty _
  refine clear first (rest ++ name.drop depth) ?_ nonempty (.inr ?_)
  · rw [← List.append_assoc, ← shape, List.take_append_drop]
  · intro none
    have last := (List.append_eq_nil_iff.mp none).2
    rw [List.drop_eq_nil_iff] at last
    omega

theorem Clear.unfollowed {links : List (Path Name)} {follow : Bool} {name : Path Name} (clear : Clear links true name) :
    Clear links follow name := fun first rest shape nonempty _ => clear first rest shape nonempty (.inl rfl)

theorem clear_nil (follow : Bool) (name : Path Name) : Clear [] follow name := fun _ _ _ _ _ => List.not_mem_nil

section Calls

variable {host : Host} {links : List (Path Name)}

theorem Guarded.reach {d : Disk} (guarded : Guarded host links d) {follow : Bool} {name : Path Name}
    (clear : Clear links follow name) {reached : Reached Name} (found : reach host d follow name = .ok reached) :
    reached = ⟨host.destination ++ name, 0⟩ := by
  unfold Stack.reach at found
  cases walked : walk d.tree follow host.limit host.destination 0 (name.map .name) with
  | error errno =>
    rw [walked] at found
    cases found
  | ok other =>
    rw [walked] at found
    cases found
    refine walk_plain ?_ walked
    intro first rest shape nonempty counts target link
    exact clear first rest shape nonempty counts (guarded.links first target link)

/-- A place below the destination may be changed as long as no new link appears. -/
theorem Guarded.set {d : Disk} (guarded : Guarded host links d) {name : Path Name} (below : name ≠ [])
    {node : Option (Node Name)} (known : ∀ target, node = some (.symlink target) → name ∈ links) :
    Guarded host links (d.set ⟨host.destination ++ name, 0⟩ node) := by
  refine ⟨?_, ?_, ?_⟩
  · intro reached listed
    rcases List.mem_append.mp listed with old | new
    · exact guarded.confined reached old
    · rw [List.mem_singleton.mp new]
      exact ⟨rfl, name, below, rfl⟩
  · have apart : host.destination ≠ host.destination ++ name := by simpa using below
    simp only [Disk.set, Function.update_of_ne apart]
    exact guarded.destination
  · intro rest target link
    simp only [Disk.set] at link
    by_cases same : rest = name
    · subst same
      rw [Function.update_self] at link
      exact known target link
    · rw [Function.update_of_ne (by simpa using same)] at link
      exact guarded.links rest target link

theorem changing_guarded {point : Point} {follow : Bool} {name : Path Name}
    {change : Option (Node Name) → Except Errno (Option (Node Name))} (clear : Clear links follow name)
    (known : ∀ node target, change node = .ok (some (.symlink target)) → name ∈ links ∨ node = some (.symlink target))
    (refuses : name = [] → ∀ node, node ≠ none → ∀ result, change node ≠ .ok result) :
    Triple (Holds (Guarded host links)) (changing host point follow name change)
      (fun reached => Holds fun d => Guarded host links d ∧ reached = ⟨host.destination ++ name, 0⟩ ∧ name ≠ [])
      (fun _ => Holds (Guarded host links)) := by
  refine act_holds _ (fun _ => id) fun d reached d' guarded changed => ?_
  cases found : reach host d follow name with
  | error failure =>
    rw [found] at changed
    cases changed
  | ok place =>
    rw [found] at changed
    have plain := guarded.reach clear found
    subst plain
    cases result : change (d.tree (host.destination ++ name)) with
    | error errno =>
      simp only [result] at changed
      cases changed
    | ok node =>
      simp only [result] at changed
      cases changed
      have below : name ≠ [] := by
        rintro rfl
        refine refuses rfl _ ?_ node result
        rw [List.append_nil]
        exact guarded.destination
      refine ⟨guarded.set below fun target link => ?_, rfl, below⟩
      rw [link] at result
      rcases known _ target result with listed | already
      · exact listed
      · exact guarded.links name target already

theorem mkdirAt_guarded {name : Path Name} (clear : Clear links false name) :
    Keeps (Holds (Guarded host links)) (mkdirAt host name) := by
  refine (changing_guarded clear ?_ ?_).conclude (fun _ _ given => given.1) fun _ _ => id
  · rintro (_ | node) target made
    · cases made
    · cases made
  · rintro _ (_ | node) there result made
    · exact there rfl
    · cases made

theorem acceptDirectory_guarded {name : Path Name} {failure : Failure} :
    Keeps (Holds (Guarded host links)) (acceptDirectory host name failure) := by
  refine Keeps.bind Keeps.disk fun d => ?_
  split
  · exact Keeps.pure
  · exact Keeps.raise

theorem mkdirOnce_guarded {name : Path Name} (clear : Clear links false name) :
    Keeps (Holds (Guarded host links)) (mkdirOnce host name) := by
  refine Keeps.handle (Keeps.bind (mkdirAt_guarded clear) fun _ => Keeps.pure) fun failure => ?_
  split
  · exact Keeps.raise
  · exact acceptDirectory_guarded
  · exact Keeps.raise

theorem mkdirs_guarded {name : Path Name} {depth : Nat}
    (clear : ∀ count ≤ depth, Clear links false (name.take count)) :
    Keeps (Holds (Guarded host links)) (mkdirs host name depth) := by
  induction depth with
  | zero => exact mkdirOnce_guarded (by simpa using clear 0 le_rfl)
  | succ depth ih =>
    have here := clear (depth + 1) le_rfl
    refine Keeps.handle (Keeps.bind (mkdirAt_guarded here) fun _ => Keeps.pure) fun failure => ?_
    split
    · exact Keeps.bind (ih fun count low => clear count (by omega)) fun _ => mkdirOnce_guarded here
    · exact acceptDirectory_guarded
    · exact Keeps.raise

theorem makeParents_guarded {name : Path Name} (below : name ≠ []) (clear : Clear links false name) :
    Keeps (Holds (Guarded host links)) (makeParents host name) := by
  refine mkdirs_guarded fun count low => (clear.take ?_).unfollowed
  have := List.length_pos_of_ne_nil below
  omega

theorem writeBlock_guarded {name : Path Name} (below : name ≠ []) (block : List UInt8) :
    Keeps (Holds (Guarded host links)) (writeBlock ⟨host.destination ++ name, 0⟩ block) := by
  refine write_holds _ (fun _ => id) fun d guarded => ?_
  split
  · exact guarded.set below nofun
  · exact guarded

theorem chmod_guarded {name : Path Name} (below : name ≠ []) (clear : Clear links true name) (mode : Nat) :
    Keeps (Holds (Guarded host links)) (chmod host name mode) := by
  refine Keeps.bind ?_ fun _ => Keeps.pure
  refine (changing_guarded clear ?_ fun none => absurd none below).conclude (fun _ _ given => given.1) fun _ _ => id
  rintro (_ | _ | ⟨content, _⟩ | found) target made
  · cases made
  · cases made
  · cases made
  · cases made
    exact .inr rfl

theorem unlink_guarded {name : Path Name} (below : name ≠ []) (clear : Clear links false name) :
    Keeps (Holds (Guarded host links)) (unlink host name) := by
  refine Keeps.bind ?_ fun _ => Keeps.pure
  refine (changing_guarded clear ?_ fun none => absurd none below).conclude (fun _ _ given => given.1) fun _ _ => id
  rintro (_ | _ | _ | _) target made
  all_goals cases made

theorem symlinkTo_guarded {name : Path Name} (below : name ≠ []) (clear : Clear links false name)
    (listed : name ∈ links)
    (linkname : Text) : Keeps (Holds (Guarded host links)) (symlinkTo host name linkname) := by
  refine Keeps.bind ?_ fun _ => Keeps.pure
  refine (changing_guarded clear ?_ fun none => absurd none below).conclude (fun _ _ given => given.1) fun _ _ => id
  exact fun _ _ _ => .inl listed

/-- A file is written while there is no link yet. -/
theorem extractFile_guarded (file : Member × Nat × Option (List (List UInt8))) :
    Keeps (Holds (Guarded host [])) (extractFile host file) := by
  obtain ⟨member, mode, blocks⟩ := file
  refine Keeps.bind (makeParents_guarded member.below (clear_nil _ _)) fun _ => ?_
  cases blocks with
  | none => exact Keeps.pure
  | some blocks =>
    have opened : Triple (Holds (Guarded host [])) (openFile host member.parts)
        (fun reached => Holds fun d =>
          Guarded host [] d ∧ reached = ⟨host.destination ++ member.parts, 0⟩ ∧ member.parts ≠ [])
        (fun _ => Holds (Guarded host [])) := by
      refine changing_guarded (clear_nil _ _) ?_ fun none => absurd none member.below
      rintro (_ | _ | _ | _) target made
      all_goals cases made
    refine Triple.bind opened fun reached => ?_
    refine Triple.given (reached = ⟨host.destination ++ member.parts, 0⟩) (fun _ given => given.2.1) fun same => ?_
    subst same
    refine Triple.strengthen ?_ fun _ given => given.1
    refine Keeps.bind (Keeps.forM fun block => writeBlock_guarded member.below block) fun _ => ?_
    exact Keeps.bind (chmod_guarded member.below (clear_nil _ _) _) fun _ => Keeps.pure

theorem extractFiles_guarded (files : List (Member × Nat × Option (List (List UInt8)))) :
    Keeps (Holds (Guarded host [])) (extractFiles host files) := by
  induction files with
  | nil => exact Keeps.pure
  | cons file files ih =>
    exact Keeps.bind (extractFile_guarded file) fun _ => Keeps.bind ih fun _ => Keeps.pure

theorem extractLink_guarded {link : Member × Text} (clear : Clear links false link.1.parts)
    (listed : link.1.parts ∈ links) :
    Keeps (Holds (Guarded host links)) (extractLink host link) := by
  refine Keeps.bind (makeParents_guarded link.1.below clear) fun _ => ?_
  refine Keeps.bind Keeps.disk fun d => ?_
  refine Keeps.bind (Keeps.onlyIf (unlink_guarded link.1.below clear)) fun _ => ?_
  exact symlinkTo_guarded link.1.below clear listed link.2

end Calls

section Structure

/-- Every link of the archive is among the members seen. -/
theorem inspect_links {infos : List TarInfo} {before after : Inspection} (inspected : inspect before infos = .ok after)
    (seen : ∀ link ∈ before.symlinks, link.1 ∈ before.seen) : ∀ link ∈ after.symlinks, link.1 ∈ after.seen := by
  induction infos generalizing before with
  | nil =>
    cases inspected
    exact seen
  | cons info infos ih =>
    simp only [inspect, bind, Except.bind] at inspected
    cases added : before.add info with
    | error failure =>
      rw [added] at inspected
      cases inspected
    | ok next =>
      rw [added] at inspected
      refine ih inspected ?_
      simp only [Inspection.add, bind, Except.bind] at added
      cases safe : safeMember info.name with
      | error failure =>
        rw [safe] at added
        cases added
      | ok member =>
        rw [safe] at added
        have kept (link : Member × Text) (listed : link ∈ before.symlinks) : link.1 ∈ before.seen ++ [member] :=
          List.mem_append_left _ (seen link listed)
        cases kind : info.kind with
        | directory =>
          simp only [kind] at added
          cases added
          exact kept
        | regular mode blocks =>
          simp only [kind] at added
          cases added
          exact kept
        | other =>
          simp only [kind] at added
          cases added
          exact kept
        | symlink linkname =>
          simp only [kind] at added
          cases added
          intro link listed
          rcases List.mem_append.mp listed with old | new
          · exact kept link old
          · rw [List.mem_singleton.mp new]
            exact List.mem_append_right _ (List.mem_singleton_self _)

/-- A member of an archive without structural problems is beneath no link. -/
theorem structural_clear {inspection : Inspection} {members : Members} (sound : structural inspection members = [])
    {member : Member} (seen : member ∈ inspection.seen) :
    Clear (inspection.symlinks.map (·.1.parts)) false member.parts := by
  intro first rest shape nonempty counts listed
  obtain ⟨link, linked, same⟩ := List.mem_map.mp listed
  have through : beneath inspection member := by
    refine List.any_eq_true.mpr ⟨render first, List.mem_map.mpr ⟨first, ?_, rfl⟩, ?_⟩
    · refine List.mem_filter.mpr ⟨List.mem_inits _ _ |>.mpr ⟨rest, shape.symm⟩, ?_⟩
      have proper : first ≠ member.parts := by
        rintro rfl
        rcases counts with impossible | more
        · cases impossible
        · exact more (by simpa using shape)
      simp [nonempty, proper]
    · refine List.any_eq_true.mpr ⟨link, linked, ?_⟩
      simp [Member.text, same]
  have flagged : member ∈ inspection.seen.filter (beneath inspection) := List.mem_filter.mpr ⟨seen, through⟩
  have none := (List.append_eq_nil_iff.mp sound).2
  rw [List.map_eq_nil_iff] at none
  rw [none] at flagged
  cases flagged

end Structure

section Extraction

theorem emptied_guarded (host : Host) (tree : FileTree Name) (links : List (Path Name)) :
    Guarded host links { tree := emptied tree host.destination } := by
  refine ⟨fun _ none => absurd none List.not_mem_nil, by simp [emptied], ?_⟩
  intro rest target link
  simp only [emptied] at link
  split at link
  · cases link
  · split at link
    · cases link
    · rename_i outside
      exact absurd (by simp) outside

theorem Guarded.weaken {host : Host} {d : Disk} (links : List (Path Name)) (guarded : Guarded host [] d) :
    Guarded host links d :=
  ⟨guarded.confined, guarded.destination, fun rest target link =>
    absurd (guarded.links rest target link) List.not_mem_nil⟩

theorem extractTree_guarded (host : Host) (archive : Except Failure (List TarInfo)) (members : Members) :
    Triple (Holds (Guarded host [])) (extractTree host archive members)
      (fun _ => Holds fun d => ∃ links, Guarded host links d) (fun _ => Holds fun d =>
        ∃ links, Guarded host links d) := by
  have unlinked {α : Type} {body : StackM α} (keeps : Keeps (Holds (Guarded host [])) body) :
      Triple (Holds (Guarded host [])) body (fun _ => Holds (Guarded host []))
        (fun _ => Holds fun d => ∃ links, Guarded host links d) :=
    keeps.fallback fun _ _ guarded => ⟨[], guarded⟩
  refine Triple.bind (unlinked (act_holds _ (fun _ => id) fun d infos d' guarded opened => ?_)) fun infos => ?_
  · cases archive with
    | error failure => cases opened
    | ok value =>
      cases opened
      exact guarded
  cases inspected : inspect {} infos with
  | error failure => exact raise_triple fun _ guarded => ⟨[], guarded⟩
  | ok inspection =>
    change Triple _ (if structural inspection members ≠ [] then _ else _) _ _
    apply Triple.ite
    · exact fun _ => Triple.pure fun _ guarded => ⟨[], guarded⟩
    · intro sound
      rw [not_not] at sound
      have linked := inspect_links inspected fun _ none => absurd none List.not_mem_nil
      refine Triple.bind (unlinked (Keeps.forM fun member => mkdirs_guarded fun _ _ => clear_nil _ _)) fun _ => ?_
      refine Triple.bind (unlinked (extractFiles_guarded inspection.regular)) fun unread => ?_
      let links := inspection.symlinks.map (·.1.parts)
      have linking : Keeps (Holds (Guarded host links)) (inspection.symlinks.forM (extractLink host)) :=
        forM_invariant fun link listed => extractLink_guarded (structural_clear sound (linked link listed))
          (List.mem_map.mpr ⟨link, listed, rfl⟩)
      refine Triple.bind (linking.weaken (fun _ guarded => guarded.weaken links) (fun _ _ => id)
        fun _ _ guarded => ⟨links, guarded⟩) fun _ => ?_
      refine Triple.bind (act_holds (fun _ => Guarded host links) (fun _ guarded => ⟨links, guarded⟩)
        fun d differing d' guarded verified => ?_) fun differing => Triple.pure fun _ guarded => ⟨links, guarded⟩
      cases checked : verifyTree host d members with
      | error failure =>
        rw [checked] at verified
        cases verified
      | ok problems =>
        rw [checked] at verified
        cases verified
        exact guarded

/-- Whatever the archive and the manifest hold and whichever step fails, an extraction into an empty directory
touches only places below it, and reaches them through no link. -/
theorem extractTree_confined (host : Host) (tree : FileTree Name) (archive : Except Failure (List TarInfo))
    (members : Members) (faults : Schedule Failure) :
    ∀ reached ∈ (finalState (extractTree host archive members
      ⟨{ tree := emptied tree host.destination }, faults, []⟩)).disk.touches, Confined host reached := by
  have kept : Triple (Holds (Guarded host [])) (extractTree host archive members)
      (fun _ => Holds fun d => ∀ reached ∈ d.touches, Confined host reached)
      (fun _ => Holds fun d => ∀ reached ∈ d.touches, Confined host reached) :=
    (extractTree_guarded host archive members).conclude (fun _ _ ⟨_, guarded⟩ => guarded.confined)
      fun _ _ ⟨_, guarded⟩ => guarded.confined
  exact kept.ended (emptied_guarded host tree [])

def prefixHost : Host where
  destination := ["prefix".toList]
  limit := 40
  umask := 0o022
  digest _ := []

/-- One directory in the archive and in the manifest. -/
theorem extractTree_confined_directory :
    Confined prefixHost ⟨["prefix".toList, "usr".toList], 0⟩ := by
  refine extractTree_confined prefixHost (fun _ => some (.directory 0o755)) (.ok [⟨"usr".toList, .directory 0o755⟩])
    [("usr".toList, .object (some "directory".toList) none none (some 0o755) (some 0))] [] _ ?_
  decide +kernel

end Extraction

end Darling.Stack
